import ApiDocs.Proofs.Capture.Call
import ApiDocs.Proofs.Capture.Wsgi

/-!
What a client sees of a request that is captured. It is given what the application gives up to the first thing of which no
copy can be made: a message whose status or body stands for nothing, or a status line that begins with no integer
(`UpToRefusal`). Nothing else of capturing is seen, so the client is given all of it, and sees the request end as the
application ends it, exactly when a copy can be made of everything (`serve_upToRefusal`).
-/
namespace ApiDocs

namespace Capture

/-- What is given and how it ends, next to what would be given and how that would end: everything in front of the first
    thing that is refused, and then the fault of the refusal. -/
structure UpToRefusal {α : Type} (refusal? : α → Option Fault) (plain captured : List α × Option Fault) : Prop where
  given : captured.1 = plain.1.takeWhile fun a => (refusal? a).isNone
  fault : captured.2 = (plain.1.findSome? refusal?).or plain.2

namespace UpToRefusal

variable {α : Type} {refusal? : α → Option Fault}

theorem nil (ending : Option Fault) : UpToRefusal refusal? ([],ending) ([],ending) := ⟨rfl,rfl⟩

/-- What is refused is not given. -/
theorem refused {a : α} {fault : Fault} (refusal : refusal? a = some fault) (rest : List α) (ending : Option Fault) :
    UpToRefusal refusal? (a :: rest,ending) ([],some fault) :=
  ⟨by simp [refusal],by simp [refusal]⟩

/-- What is accepted is given in front of the rest. -/
theorem accepted {a : α} (accept : refusal? a = none) {rest given : List α} {ending fault : Option Fault}
    (upTo : UpToRefusal refusal? (rest,ending) (given,fault)) :
    UpToRefusal refusal? (a :: rest,ending) (a :: given,fault) :=
  ⟨by simpa [accept] using upTo.given,by simpa [accept] using upTo.fault⟩

theorem takeWhile_of_accepted {as : List α} (accept : ∀ a ∈ as, refusal? a = none) :
    as.takeWhile (fun a => (refusal? a).isNone) = as :=
  List.takeWhile_eq_self_iff.mpr fun a member => by simp [accept a member]

/-- All of it is given, and ends alike, exactly when nothing is refused. -/
theorem eq_iff {plain captured : List α × Option Fault} (upTo : UpToRefusal refusal? plain captured) :
    captured = plain ↔ ∀ a ∈ plain.1, refusal? a = none := by
  constructor
  · intro same a member
    have whole := upTo.given
    rw [same] at whole
    simpa using List.takeWhile_eq_self_iff.mp whole.symm a member
  · intro accept
    have nothing : plain.1.findSome? refusal? = none := List.findSome?_eq_none_iff.mpr accept
    exact Prod.ext (upTo.given.trans (takeWhile_of_accepted accept)) (by rw [upTo.fault,nothing,Option.none_or])

variable {first given : List α} {ending : Option Fault}

/-- Something is refused where nothing else ends in a fault: what would come later makes no difference. -/
theorem stopped {stop : Fault} (upTo : UpToRefusal refusal? (first,none) (given,some stop)) (second : List α)
    (later : Option Fault) : UpToRefusal refusal? (first ++ second,later) (given,some stop) := by
  have refusal : first.findSome? refusal? = some stop := by simpa using upTo.fault.symm
  have short : (first.takeWhile fun a => (refusal? a).isNone).length ≠ first.length := by
    intro same
    have whole := (List.takeWhile_prefix fun a => (refusal? a).isNone).eq_of_length same
    have nothing : first.findSome? refusal? = none := List.findSome?_eq_none_iff.mpr fun a member => by
      simpa using List.takeWhile_eq_self_iff.mp whole a member
    cases refusal.symm.trans nothing
  refine ⟨?_,?_⟩
  · rw [List.takeWhile_append,if_neg short]
    exact upTo.given
  · rw [List.findSome?_append,refusal]
    rfl

/-- What goes on without a fault is given whole in front of what comes later. -/
theorem continued (upTo : UpToRefusal refusal? (first,ending) (given,none)) {second more : List α}
    {later last : Option Fault} (onward : UpToRefusal refusal? (second,later) (more,last)) :
    ending = none ∧ UpToRefusal refusal? (first ++ second,later) (given ++ more,last) := by
  obtain ⟨nothing,goes⟩ := Option.or_eq_none_iff.mp upTo.fault.symm
  have accept : ∀ a ∈ first, refusal? a = none := List.findSome?_eq_none_iff.mp nothing
  have whole : given = first := upTo.given.trans (takeWhile_of_accepted accept)
  refine ⟨goes,?_,?_⟩
  · rw [List.takeWhile_append_of_pos fun a member => by simp [accept a member],whole]
    exact congrArg (first ++ ·) onward.given
  · rw [List.findSome?_append,nothing]
    exact onward.fault

end UpToRefusal

end Capture

namespace Asgi

open Capture

/-- A copy can be made of a message: it has a kind, the status of one that starts the response stands for an integer, and
    the body of one that brings a part of it for octets. -/
structure IsCopyable (message : Value) : Prop where
  kind : ∃ kind, message.member? "type" = some kind
  status : message.member? "type" = some startKind →
    ∃ v code, message.member? "status" = some v ∧ statusOfValue v = .ok code
  body : message.member? "type" = some bodyKind →
    ∃ octets, octetsOfBody ((message.member? "body").getD (.foreign (.bytes []))) = .ok octets

/-- Copying a message that starts the response. -/
theorem copy_start {message : Value} (kind : message.member? "type" = some startKind) (d : Draft) :
    copy d message = (entry "status" message).bind fun v => (statusOfValue v).map fun status => { d with status } := by
  have starts : startKind.beq (.str "http.response.start") = true := (Value.beq_iff _ _).mpr rfl
  rw [copy,entry_eq_ok kind]
  simp only [bind,Except.bind,starts,↓reduceIte]
  cases entry "status" message with
  | error fault => rfl
  | ok v => cases h : statusOfValue v <;> simp [h,Except.map,pure,Except.pure]

/-- Copying a message that brings a part of the body. -/
theorem copy_body {message : Value} (kind : message.member? "type" = some bodyKind) (d : Draft) :
    copy d message = (octetsOfBody ((message.member? "body").getD (.foreign (.bytes [])))).map fun octets =>
      d.add (.foreign (.bytes octets)) := by
  have starts : ¬ bodyKind.beq (.str "http.response.start") = true := by decide
  have brings : bodyKind.beq (.str "http.response.body") = true := (Value.beq_iff _ _).mpr rfl
  rw [copy,entry_eq_ok kind]
  simp only [bind,Except.bind,starts,brings,↓reduceIte]
  cases octetsOfBody ((message.member? "body").getD (.foreign (.bytes []))) <;> rfl

/-- A message of another kind leaves the copy as it is. -/
theorem copy_other {message kind : Value} (hasKind : message.member? "type" = some kind) (noStart : kind ≠ startKind)
    (noBody : kind ≠ bodyKind) (d : Draft) : copy d message = .ok d := by
  have starts : ¬ kind.beq (.str "http.response.start") = true := (Value.beq_iff _ _).not.mpr noStart
  have brings : ¬ kind.beq (.str "http.response.body") = true := (Value.beq_iff _ _).not.mpr noBody
  rw [copy,entry_eq_ok hasKind]
  simp only [bind,Except.bind,starts,brings]
  rfl

/-- A copy can be made of a message, whatever was copied before, or it is refused for one reason. -/
def CopiedOrRefused (message : Value) : Prop :=
  (IsCopyable message ∧ ∀ d, ∃ e, copy d message = .ok e) ∨
  (¬ IsCopyable message ∧ ∃ fault, ∀ d, copy d message = .error fault)

theorem copiedOrRefused_start {message : Value} (kind : message.member? "type" = some startKind) :
    CopiedOrRefused message := by
  have noBody : message.member? "type" ≠ some bodyKind := by
    rw [kind]
    exact fun same => absurd (Value.str.inj (Option.some.inj same)) (by decide)
  cases hasStatus : message.member? "status" with
  | none =>
    obtain ⟨fault,stop⟩ := entry_eq_error hasStatus
    refine .inr ⟨fun copyable => ?_,fault,fun d => by rw [copy_start kind,stop]; rfl⟩
    obtain ⟨v,_,found,_⟩ := copyable.status kind
    cases hasStatus.symm.trans found
  | some v =>
    have copied (d : Draft) : copy d message = (statusOfValue v).map fun status => { d with status } := by
      rw [copy_start kind,entry_eq_ok hasStatus]
      rfl
    cases read : statusOfValue v with
    | error fault =>
      refine .inr ⟨fun copyable => ?_,fault,fun d => by rw [copied,read]; rfl⟩
      obtain ⟨w,code,found,more⟩ := copyable.status kind
      cases hasStatus.symm.trans found
      cases read.symm.trans more
    | ok code =>
      exact .inl ⟨⟨⟨_,kind⟩,fun _ => ⟨v,code,hasStatus,read⟩,fun body => absurd body noBody⟩,
        fun d => ⟨_,by rw [copied,read]; rfl⟩⟩

theorem copiedOrRefused_body {message : Value} (kind : message.member? "type" = some bodyKind) :
    CopiedOrRefused message := by
  have noStart : message.member? "type" ≠ some startKind := by
    rw [kind]
    exact fun same => absurd (Value.str.inj (Option.some.inj same)) (by decide)
  cases read : octetsOfBody ((message.member? "body").getD (.foreign (.bytes []))) with
  | error fault =>
    refine .inr ⟨fun copyable => ?_,fault,fun d => by rw [copy_body kind,read]; rfl⟩
    obtain ⟨octets,found⟩ := copyable.body kind
    cases read.symm.trans found
  | ok octets =>
    exact .inl ⟨⟨⟨_,kind⟩,fun start => absurd start noStart,fun _ => ⟨octets,read⟩⟩,
      fun d => ⟨_,by rw [copy_body kind,read]; rfl⟩⟩

theorem copiedOrRefused (message : Value) : CopiedOrRefused message := by
  cases hasKind : message.member? "type" with
  | none =>
    obtain ⟨fault,stop⟩ := entry_eq_error hasKind
    refine .inr ⟨fun copyable => ?_,fault,fun d => by rw [copy,stop]; rfl⟩
    obtain ⟨kind,found⟩ := copyable.kind
    cases hasKind.symm.trans found
  | some kind =>
    by_cases starts : kind = startKind
    · exact copiedOrRefused_start (starts ▸ hasKind)
    · by_cases brings : kind = bodyKind
      · exact copiedOrRefused_body (brings ▸ hasKind)
      · exact .inl ⟨⟨⟨kind,hasKind⟩,fun start => absurd (Option.some.inj (hasKind.symm.trans start)) starts,
          fun body => absurd (Option.some.inj (hasKind.symm.trans body)) brings⟩,
          fun d => ⟨d,copy_other hasKind starts brings d⟩⟩

/-- Why no copy can be made of a message. -/
def refusal? (message : Value) : Option Fault :=
  match copy {} message with
  | .error fault => some fault
  | .ok _ => none

theorem refusal?_cases (message : Value) :
    (IsCopyable message ∧ refusal? message = none ∧ ∀ d, ∃ e, copy d message = .ok e) ∨
    (¬ IsCopyable message ∧ ∃ fault, refusal? message = some fault ∧ ∀ d, copy d message = .error fault) := by
  unfold refusal?
  rcases copiedOrRefused message with ⟨copyable,copied⟩ | ⟨uncopyable,fault,refused⟩
  · obtain ⟨e,first⟩ := copied {}
    exact .inl ⟨copyable,by rw [first],copied⟩
  · exact .inr ⟨uncopyable,fault,by rw [refused],refused⟩

theorem refusal?_eq_none_iff (message : Value) : refusal? message = none ↔ IsCopyable message := by
  rcases refusal?_cases message with ⟨copyable,accept,_⟩ | ⟨uncopyable,fault,refusal,_⟩
  · simp [copyable,accept]
  · simp [uncopyable,refusal]

/-- The fault in which messages end that are sent on. -/
def relayFault? : Except Fault Draft → Option Fault
  | .error fault => some fault
  | .ok _ => none

/-- Messages are sent on up to the first of which no copy can be made. -/
theorem relay_upToRefusal (d : Draft) (before : List Value) (acts : List Act) :
    ∃ sent, (relay copy d before acts).1 = before.reverse ++ sent ∧
      UpToRefusal refusal? (sends acts,ownFault? acts) (sent,relayFault? (relay copy d before acts).2) := by
  induction acts generalizing d before with
  | nil => exact ⟨[],(List.append_nil _).symm,.nil none⟩
  | cons act rest ih =>
    cases act with
    | fail message => exact ⟨[],(List.append_nil _).symm,.nil (some (.application message))⟩
    | send message =>
      rcases refusal?_cases message with ⟨_,accept,copied⟩ | ⟨_,fault,refusal,refused⟩
      · obtain ⟨e,first⟩ := copied d
        obtain ⟨sent,relayed,upTo⟩ := ih e (message :: before)
        have step : relay copy d before (.send message :: rest) = relay copy e (message :: before) rest := by
          simp only [relay,first]
        exact ⟨message :: sent,by simp [step,relayed],by rw [step]; exact upTo.accepted accept⟩
      · have step : relay copy d before (.send message :: rest) = (before.reverse,.error fault) := by
          simp only [relay,refused]
        exact ⟨[],by simp [step],by rw [step]; exact .refused refusal _ _⟩

/-- A documented request is served up to the first message of which no copy can be made. -/
theorem serve_upTo {r : Registry} {scope : Value} {method path : Text} (asked : request? scope = some (method,path))
    (documented : r.isDocumented method path = true) (acts : List Act) :
    (serve r scope acts).isCalled = true ∧
    UpToRefusal refusal? (sends acts,ownFault? acts) ((serve r scope acts).sent,(serve r scope acts).fault) := by
  have routed := route_eq r scope
  rw [asked,Option.filter_some,if_pos documented] at routed
  obtain ⟨sent,relayed,upTo⟩ := relay_upToRefusal {} [] acts
  unfold serve
  cases target : route r scope with
  | error fault => rw [target] at routed; cases routed
  | ok request =>
    rw [target] at routed
    cases (show request = some (method,path) from routed)
    dsimp only
    cases outcome : relay copy {} [] acts with
    | mk all ending =>
      rw [outcome] at relayed upTo
      cases (show all = sent from relayed)
      cases ending <;> exact ⟨rfl,upTo⟩

end Asgi

namespace Wsgi

open Capture

/-- What the server is given of what is seen: the start of the response, with the exception that it is told about, which
    may be none, and data that are written or yielded. -/
def Sight.given? : Sight → Option Sight
  | .start status headers further => some (.start status headers [further.head?.getD .null])
  | .write data => some (.write data)
  | .chunk data => some (.chunk data)
  | _ => none

/-- What the server is given, in order. -/
def given (seen : List Sight) : List Sight := seen.filterMap Sight.given?

/-- Why no copy can be made of what the server is given. -/
def Sight.refusal? : Sight → Option Fault
  | .start status _ _ =>
    match statusOfLine status with
    | .error fault => some fault
    | .ok _ => none
  | _ => none

/-- What the server was given so far. -/
def Flight.given (f : Flight) : List Sight := Wsgi.given f.seen.reverse

theorem Flight.given_see (f : Flight) (sight : Sight) : (f.see sight).given = f.given ++ (sight.given?).toList := by
  cases sight <;> simp [Flight.given,Wsgi.given,Flight.see,Sight.given?]

/-- The fault in which an iteration ends. -/
def Finish.fault? : Finish → Option Fault
  | .failed fault => some fault
  | _ => none

/-- What two flights go on to give, of which a copy is made of the first, which is given up to the first refusal; without a
    fault both stand alike behind it. -/
structure Follows (f g f' g' : Flight) (fault ending : Option Fault) : Prop where
  given : ∃ sights copied, g'.given = g.given ++ sights ∧ f'.given = f.given ++ copied ∧
    UpToRefusal Sight.refusal? (sights,ending) (copied,fault)
  alike : fault = none → f'.isStarted = g'.isStarted

namespace Follows

variable {f g f' g' f'' g'' : Flight} {fault ending : Option Fault} {sight : Sight}

theorem stay (alike : f.isStarted = g.isStarted) (ending : Option Fault) : Follows f g f g ending ending :=
  ⟨⟨[],[],(List.append_nil _).symm,(List.append_nil _).symm,.nil ending⟩,fun _ => alike⟩

theorem refused {stop : Fault} (refusal : sight.refusal? = some stop) (seen : g'.given = g.given ++ [sight])
    (onward : Follows g' g' f'' g'' fault ending) : Follows f g f g'' (some stop) ending := by
  obtain ⟨⟨sights,_,more,_,_⟩,_⟩ := onward
  exact ⟨⟨sight :: sights,[],by simp [more,seen],(List.append_nil _).symm,.refused refusal sights ending⟩,
    fun goes => by cases goes⟩

theorem step (accept : sight.refusal? = none) (copied : f'.given = f.given ++ [sight])
    (seen : g'.given = g.given ++ [sight]) (onward : Follows f' g' f'' g'' fault ending) :
    Follows f g f'' g'' fault ending := by
  obtain ⟨⟨sights,more,plain,captured,upTo⟩,alike⟩ := onward
  exact ⟨⟨sight :: sights,sight :: more,by simp [plain,seen],by simp [captured,copied],upTo.accepted accept⟩,alike⟩

end Follows

/-- An act is done alike with and without a copy, unless no copy can be made of what the server is given. -/
theorem act_cases {f g : Flight} (alike : f.isStarted = g.isStarted) (a : Act) :
    (∃ fault, f.act true a = .error fault ∧ g.act false a = .error fault) ∨
    ∃ sight g', g.act false a = .ok g' ∧ g'.given = g.given ++ [sight] ∧
      ((∃ fault, sight.refusal? = some fault ∧ f.act true a = .error fault) ∨
        ∃ f', sight.refusal? = none ∧ f.act true a = .ok f' ∧ f'.given = f.given ++ [sight] ∧
          f'.isStarted = g'.isStarted) := by
  cases a with
  | fail message => exact .inl ⟨.application message,rfl,rfl⟩
  | write data =>
    cases started : g.isStarted with
    | false => exact .inl ⟨.notStarted,by simp [Flight.act,alike,started],by simp [Flight.act,started]⟩
    | true =>
      have plain : g.act false (.write data) = .ok ({ g with draft := g.draft.add data }.see (.write data)) :=
        if_pos started
      have copied : f.act true (.write data) = .ok ({ f with draft := f.draft.add data }.see (.write data)) :=
        if_pos (alike.trans started)
      exact .inr ⟨.write data,_,plain,Flight.given_see _ _,.inr ⟨_,rfl,copied,Flight.given_see _ _,alike⟩⟩
  | start status headers cause =>
    have plain : g.act false (.start status headers cause) =
        .ok ({ g with isStarted := true }.see (.start status headers cause.toList)) := rfl
    have seen : ({ g with isStarted := true }.see (.start status headers cause.toList)).given =
        g.given ++ [.start status headers [cause.getD .null]] := by
      rw [Flight.given_see]
      cases cause <;> rfl
    refine .inr ⟨_,_,plain,seen,?_⟩
    cases read : statusOfLine status with
    | error fault =>
      exact .inl ⟨fault,by simp [Sight.refusal?,read],by simp [Flight.act,read]⟩
    | ok code =>
      have copied : f.act true (.start status headers cause) =
          .ok ({ f with draft := { f.draft with status := code }, isStarted := true }.see
            (.start status headers [cause.getD .null])) := by
        simp [Flight.act,read]
      exact .inr ⟨_,by simp [Sight.refusal?,read],copied,Flight.given_see _ _,rfl⟩

/-- An iteration of which a copy is made follows one without. -/
theorem pull_follows (left : Option Nat) {f g : Flight} (alike : f.isStarted = g.isStarted) (items : List Item) :
    Follows f g (f.pull true left items).1 (g.pull false left items).1 (f.pull true left items).2.fault?
      (g.pull false left items).2.fault? := by
  induction items generalizing left f g with
  | nil => exact .stay alike none
  | cons item rest ih =>
    cases item with
    | act a =>
      simp only [Flight.pull]
      obtain ⟨fault,copied,plain⟩ | ⟨sight,g',plain,seen,⟨fault,refusal,copied⟩ | ⟨f',accept,copied,more,still⟩⟩ :=
        act_cases alike a
      · rw [copied,plain]
        exact .stay alike (some fault)
      · rw [copied,plain]
        exact .refused refusal seen (ih left rfl)
      · rw [copied,plain]
        exact .step accept more seen (ih left still)
    | chunk data =>
      have yielded (h : Flight) :
          ({ h with draft := h.draft.add data }.see (.chunk data)).given = h.given ++ [.chunk data] :=
        Flight.given_see _ _
      have still : ({ f with draft := f.draft.add data }.see (.chunk data)).isStarted =
          ({ g with draft := g.draft.add data }.see (.chunk data)).isStarted := alike
      by_cases last : left = some 1
      · simp only [Flight.pull,last,↓reduceIte]
        exact .step rfl (yielded f) (yielded g) (.stay still none)
      · simp only [Flight.pull,last,↓reduceIte]
        exact .step rfl (yielded f) (yielded g) (ih _ still)

/-- What an application does when it is called is an iteration without chunks. -/
theorem pull_map_act (isCopied : Bool) (f : Flight) (acts : List Act) :
    (f.pull isCopied none (acts.map .act)).1 = (f.acts isCopied acts).1 ∧
    (f.pull isCopied none (acts.map .act)).2.fault? = (f.acts isCopied acts).2 := by
  have whole := pull_acts isCopied none f acts []
  rw [List.append_nil] at whole
  rw [whole]
  cases f.acts isCopied acts with
  | mk g stop => cases stop <;> exact ⟨rfl,rfl⟩

theorem acts_follow {f g : Flight} (alike : f.isStarted = g.isStarted) (acts : List Act) :
    Follows f g (f.acts true acts).1 (g.acts false acts).1 (f.acts true acts).2 (g.acts false acts).2 := by
  have pulled := pull_follows none alike (acts.map .act)
  obtain ⟨copied,fault⟩ := pull_map_act true f acts
  obtain ⟨plain,ending⟩ := pull_map_act false g acts
  rwa [copied,fault,plain,ending] at pulled

/-- What the server is given of a request, and how the request ends. -/
def Served.outcome (served : Served) : List Sight × Option Fault := (given served.seen,served.fault)

/-- What the server is given of an iteration, and how it ends. -/
def outcomeOf (iterated : Flight × Finish) : List Sight × Option Fault := (iterated.1.given,iterated.2.fault?)

theorem serveOther_outcome (r : Registry) (app : App) {pulls : Option Nat} (begun : pulls ≠ some 0) :
    (serveOther r app pulls).outcome =
      match (({} : Flight).see .called).acts false app.pre with
      | (g,some fault) => (g.given,some fault)
      | (g,none) => outcomeOf ((g.see .returned).pull false pulls app.items) := by
  unfold serveOther
  cases (({} : Flight).see .called).acts false app.pre with
  | mk g stop =>
    cases stop with
    | some fault => rfl
    | none =>
      simp only [begun,↓reduceIte]
      cases (g.see .returned).pull false pulls app.items with
      | mk h finish => cases finish <;> rfl

/-- Closing the iterable gives the server nothing. -/
theorem given_close (f : Flight) (app : App) : (f.close app).given = f.given := by
  unfold Flight.close
  split
  · rw [Flight.given_see]
    exact List.append_nil _
  · rfl

theorem serveDocumented_outcome (r : Registry) (method path : Text) (app : App) {pulls : Option Nat}
    (begun : pulls ≠ some 0) :
    (serveDocumented r method path app pulls).outcome =
      match ((({} : Flight).see .returned).see .called).acts true app.pre with
      | (f,some fault) => (f.given,some fault)
      | (f,none) => outcomeOf (f.pull true pulls app.items) := by
  unfold serveDocumented
  simp only [begun,↓reduceIte]
  cases ((({} : Flight).see .returned).see .called).acts true app.pre with
  | mk f stop =>
    cases stop with
    | some fault => rfl
    | none =>
      dsimp only
      cases f.pull true pulls app.items with
      | mk h finish =>
        have closed := given_close h app
        cases finish <;> exact congrArg (·,_) closed

/-- A documented request is served up to the first status line that begins with no integer. -/
theorem serveDocumented_upTo (r : Registry) (method path : Text) (app : App) {pulls : Option Nat} (begun : pulls ≠ some 0) :
    UpToRefusal Sight.refusal? (serveOther r app pulls).outcome (serveDocumented r method path app pulls).outcome := by
  have called := acts_follow (f := (({} : Flight).see .returned).see .called) (g := ({} : Flight).see .called) rfl app.pre
  rw [serveOther_outcome r app begun,serveDocumented_outcome r method path app begun]
  cases copied : ((({} : Flight).see .returned).see .called).acts true app.pre with
  | mk f stop =>
    cases plain : (({} : Flight).see .called).acts false app.pre with
    | mk g ending =>
      rw [copied,plain] at called
      obtain ⟨⟨sights,more,seen,captured,upTo⟩,alike⟩ := called
      have seen : g.given = sights := seen
      have captured : f.given = more := captured
      have returned : (g.see .returned).given = sights := by
        rw [Flight.given_see,seen]
        exact List.append_nil sights
      cases stop with
      | some fault =>
        cases ending with
        | some own =>
          dsimp only
          rw [seen,captured]
          exact upTo
        | none =>
          -- Without a copy the request goes on; what is given then is not given with one.
          obtain ⟨⟨later,_,pulled,_,_⟩,_⟩ :=
            pull_follows pulls (f := g.see .returned) (g := g.see .returned) rfl app.items
          dsimp only [outcomeOf]
          rw [pulled,returned,captured]
          exact upTo.stopped later _
      | none =>
        obtain ⟨⟨later,next,pulled,copiedLater,onward⟩,_⟩ :=
          pull_follows pulls (f := f) (g := g.see .returned) (alike rfl) app.items
        obtain ⟨goes,whole⟩ := upTo.continued onward
        cases (show ending = none from goes)
        dsimp only [outcomeOf]
        rw [pulled,returned,copiedLater,captured]
        exact whole

theorem serveDocumented_unpulled (r : Registry) (method path : Text) (app : App) :
    (serveDocumented r method path app (some 0)).outcome = ([],none) := rfl

/-- The status line begins with an integer. -/
def Sight.IsReadable : Sight → Prop
  | .start status _ _ => ∃ code, statusOfLine status = .ok code
  | _ => True

theorem refusal?_eq_none_iff (sight : Sight) : sight.refusal? = none ↔ sight.IsReadable := by
  cases sight with
  | start status headers further => cases read : statusOfLine status <;> simp [Sight.refusal?,Sight.IsReadable,read]
  | _ => simp [Sight.refusal?,Sight.IsReadable]

end Wsgi

namespace Capture

/-- What the client sees of a documented request, over either interface and whatever the application does. It is given what
    the application gives up to the first thing of which no copy can be made, and the request ends with the fault of that;
    so it sees the same as without a capture, the end of the request included, exactly when a copy can be made of
    everything that it would be given. A server that pulls nothing is given nothing over the second interface, where
    without a capture the application would be called. -/
theorem serve_upToRefusal (r : Registry) :
    (∀ (method path : Text) (scope : Value) (acts : List Asgi.Act),
      scope.member? "type" = some (.str "http") → scope.member? "method" = some (.str method) →
      scope.member? "path" = some (.str path) → r.isDocumented method path = true →
        (Asgi.serve r scope acts).isCalled = true ∧
        UpToRefusal Asgi.refusal? (Asgi.sends acts,Asgi.ownFault? acts)
          ((Asgi.serve r scope acts).sent,(Asgi.serve r scope acts).fault) ∧
        (((Asgi.serve r scope acts).sent,(Asgi.serve r scope acts).fault) = (Asgi.sends acts,Asgi.ownFault? acts) ↔
          ∀ message ∈ Asgi.sends acts, Asgi.IsCopyable message)) ∧
    ∀ (environ : Wsgi.Environ) (app : Wsgi.App), r.isDocumented environ.method environ.path = true →
      (Wsgi.serveIn r environ app (some 0)).outcome = ([],none) ∧
      ∀ pulls, pulls ≠ some 0 →
        UpToRefusal Wsgi.Sight.refusal? (Wsgi.serveOther r app pulls).outcome (Wsgi.serveIn r environ app pulls).outcome ∧
        ((Wsgi.serveIn r environ app pulls).outcome = (Wsgi.serveOther r app pulls).outcome ↔
          ∀ sight ∈ (Wsgi.serveOther r app pulls).outcome.1, sight.IsReadable) := by
  constructor
  · intro method path scope acts http hasMethod hasPath documented
    have asked : Asgi.request? scope = some (method,path) := by
      have kind : (Value.str "http").beq (.str "http") = true := (Value.beq_iff _ _).mpr rfl
      simp only [Asgi.request?,http,hasMethod,hasPath,kind,Option.bind_some,↓reduceIte,Option.map_some]
      rfl
    obtain ⟨called,upTo⟩ := Asgi.serve_upTo asked documented acts
    refine ⟨called,upTo,upTo.eq_iff.trans ?_⟩
    exact forall₂_congr fun message _ => Asgi.refusal?_eq_none_iff message
  · intro environ app documented
    have served (pulls : Option Nat) : Wsgi.serveIn r environ app pulls =
        Wsgi.serveDocumented r environ.method environ.path app pulls := if_pos documented
    refine ⟨by rw [served]; exact Wsgi.serveDocumented_unpulled r environ.method environ.path app,fun pulls begun => ?_⟩
    have upTo := Wsgi.serveDocumented_upTo r environ.method environ.path app begun
    rw [served]
    exact ⟨upTo,upTo.eq_iff.trans (forall₂_congr fun sight _ => Wsgi.refusal?_eq_none_iff sight)⟩

/-! The status of one response is a fraction or comes with an exception, and its data are no octets but stand for some, or
are written as they are. The body of the other is a text, or its status line a word. -/

private def openRoute : Registry := .ofList [{ method := "GET", path := "/a" }]

private def openScope : Value := .obj [("type",.str "http"),("method",.str "GET"),("path",.str "/a")]

private def sentMessage (kind name : Text) (v : Value) : Asgi.Act := .send (.obj [("type",.str kind),(name,v)])

private def oddActs : List Asgi.Act :=
  [sentMessage "http.response.start" "status" (.float (.finite false 201 0)),
    sentMessage "http.response.body" "body" (.arr [.int 0x31]),sentMessage "http.response.push" "body" (.str "text"),
    .fail "down"]

/-- The status line is the octets of `404`. -/
private def oddLine : Value := .foreign (.bytes [0x34,0x30,0x34])

private def oddApp : Wsgi.App :=
  { pre := [.start oddLine .null (some (.str "why")),.write (.str "text")],items := [.chunk (.int 7),.act (.fail "down")],
    hasClose := true }

private def oddEnviron : Wsgi.Environ := { pathInfo := some "/a" }

theorem serve_upToRefusal_odd :
    openRoute.isDocumented "GET" "/a" = true ∧ (∀ message ∈ Asgi.sends oddActs, Asgi.IsCopyable message) ∧
    (Asgi.serve openRoute openScope oddActs).sent.length = 3 ∧
    (Asgi.serve openRoute openScope oddActs).fault = some (.application "down") ∧
    (∀ sight ∈ (Wsgi.serveOther openRoute oddApp none).outcome.1, sight.IsReadable) ∧
    (Wsgi.serveIn openRoute oddEnviron oddApp none).outcome =
      ([.start oddLine .null [.str "why"],.write (.str "text"),.chunk (.int 7)],some (.application "down")) := by
  have documented : openRoute.isDocumented "GET" "/a" = true := by decide
  have copyable : ∀ message ∈ Asgi.sends oddActs, Asgi.IsCopyable message := by
    intro message member
    rw [← Asgi.refusal?_eq_none_iff]
    simp only [oddActs,sentMessage,Asgi.sends,List.mem_cons,List.not_mem_nil,or_false] at member
    rcases member with rfl | rfl | rfl <;> rfl
  have readable : ∀ sight ∈ (Wsgi.serveOther openRoute oddApp none).outcome.1, sight.IsReadable := by
    intro sight member
    have given : (Wsgi.serveOther openRoute oddApp none).outcome.1 =
        [.start oddLine .null [.str "why"],.write (.str "text"),.chunk (.int 7)] := rfl
    rw [given] at member
    simp only [List.mem_cons,List.not_mem_nil,or_false] at member
    rcases member with rfl | rfl | rfl
    · exact ⟨404,rfl⟩
    all_goals trivial
  obtain ⟨asgi,wsgi⟩ := serve_upToRefusal openRoute
  obtain ⟨_,_,alike⟩ := asgi "GET" "/a" openScope oddActs rfl rfl rfl documented
  have same := alike.mpr copyable
  have other := ((wsgi oddEnviron oddApp documented).2 none (by simp)).2.mpr readable
  exact ⟨documented,copyable,congrArg (·.1.length) same,congrArg (·.2) same,readable,other.trans rfl⟩

private def textActs : List Asgi.Act :=
  [sentMessage "http.response.start" "status" (.int 200),sentMessage "http.response.body" "body" (.str "hi")]

private def wordApp : Wsgi.App :=
  { pre := [.start (.str "OK") (.arr []) none],items := [.chunk (.foreign (.bytes [0x68,0x69]))],hasClose := false }

/-- A body that is a text is not given, nor anything of a response whose status line is a word, and both requests fail,
    although the applications do not. -/
theorem serve_upToRefusal_word :
    openRoute.isDocumented "GET" "/a" = true ∧
    ((Asgi.sends textActs).length,Asgi.ownFault? textActs) = (2,none) ∧
    ((Asgi.serve openRoute openScope textActs).sent.length,(Asgi.serve openRoute openScope textActs).fault) =
      (1,some .textBody) ∧
    (Wsgi.serveOther openRoute wordApp none).outcome =
      ([.start (.str "OK") (.arr []) [.null],.chunk (.foreign (.bytes [0x68,0x69]))],none) ∧
    (Wsgi.serveIn openRoute oddEnviron wordApp none).outcome = ([],some (.notInteger (.str "OK"))) :=
  ⟨by decide,rfl,rfl,rfl,rfl⟩

end Capture

end ApiDocs
