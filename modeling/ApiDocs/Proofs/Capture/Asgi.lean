import ApiDocs.Capture.Asgi
import ApiDocs.Proofs.Capture.Response
import ApiDocs.Proofs.Json.Equality

/-!
What a request over ASGI records. The copy of a response follows the messages that were sent, part by part
(`relay_copy`), so a request whose application returns is recorded as the exchange of its last status and all its
octets, and one whose application fails is not recorded at all (`entries_of_conforms`).
-/
namespace ApiDocs.Asgi

open Capture Registry

/-- The kind of the messages that start a response. -/
def startKind : Value := .str "http.response.start"

/-- The kind of the messages that bring a part of its body. -/
def bodyKind : Value := .str "http.response.body"

/-- A message is made as it should be: it has a kind, one that starts a response an integer status, and one that
    brings a body octets or nothing. -/
structure Conforms (message : Value) : Prop where
  kind : ∃ kind, message.member? "type" = some kind
  status : message.member? "type" = some startKind → ∃ code, message.member? "status" = some (.int code)
  body : message.member? "type" = some bodyKind → ∀ v, message.member? "body" = some v → ∃ b, v = .foreign (.bytes b)

theorem startKind_ne_bodyKind : startKind ≠ bodyKind := fun same => absurd (Value.str.inj same) (by decide)

theorem conforms_start {message : Value} (kind : message.member? "type" = some startKind) {code : Int}
    (status : message.member? "status" = some (.int code)) : Conforms message :=
  ⟨⟨_,kind⟩,fun _ => ⟨code,status⟩,
    fun isBody => absurd (Option.some.inj (kind.symm.trans isBody)) startKind_ne_bodyKind⟩

theorem conforms_body {message : Value} (kind : message.member? "type" = some bodyKind) {octets : Bytes}
    (body : message.member? "body" = some (.foreign (.bytes octets))) : Conforms message :=
  ⟨⟨_,kind⟩,fun isStart => absurd (Option.some.inj (isStart.symm.trans kind)) startKind_ne_bodyKind,
    fun _ _ found => ⟨octets,Option.some.inj (found.symm.trans body)⟩⟩

/-- The part of a response that a message carries. -/
def part? (message : Value) : Option Part :=
  match message.member? "type" with
  | none => none
  | some kind =>
    if kind.beq startKind then
      match message.member? "status" with
      | some (.int code) => some (.status code)
      | _ => none
    else if kind.beq bodyKind then
      match message.member? "body" with
      | none => some (.data [])
      | some (.foreign (.bytes octets)) => some (.data octets)
      | _ => none
    else none

theorem entry_eq_ok {name : Text} {v w : Value} (found : v.member? name = some w) : entry name v = .ok w := by
  cases v with
  | obj members =>
    have bound : Value.lookup? name members = some w := found
    simp [entry,bound]
  | _ => cases found

/-- Copying a message takes the part that it carries. -/
theorem copy_eq {message : Value} (conforms : Conforms message) (d : Draft) :
    copy d message = .ok ((part? message).elim d d.take) := by
  obtain ⟨kind,hasKind⟩ := conforms.kind
  unfold copy part?
  rw [entry_eq_ok hasKind,hasKind]
  by_cases starts : kind.beq startKind = true
  · have isStart : kind = startKind := (Value.beq_iff kind _).mp starts
    obtain ⟨code,hasStatus⟩ := conforms.status (isStart ▸ hasKind)
    have starts : kind.beq (.str "http.response.start") = true := starts
    simp only [bind,Except.bind,starts,startKind,↓reduceIte,entry_eq_ok hasStatus,hasStatus,statusOfValue]
    rfl
  · by_cases brings : kind.beq bodyKind = true
    · have isBody : kind = bodyKind := (Value.beq_iff kind _).mp brings
      have starts : ¬ kind.beq (.str "http.response.start") = true := starts
      have brings : kind.beq (.str "http.response.body") = true := brings
      simp only [bind,Except.bind,starts,brings,startKind,bodyKind,↓reduceIte]
      cases hasBody : message.member? "body" with
      | none => rfl
      | some v =>
        obtain ⟨octets,rfl⟩ := conforms.body (isBody ▸ hasKind) v hasBody
        rfl
    · have starts : ¬ kind.beq (.str "http.response.start") = true := starts
      have brings : ¬ kind.beq (.str "http.response.body") = true := brings
      simp only [bind,Except.bind,starts,brings,startKind,bodyKind]
      rfl

/-- The messages that an application sends before it fails, if it does. -/
def sends : List Act → List Value
  | [] => []
  | .fail _ :: _ => []
  | .send message :: rest => message :: sends rest

/-- The fault in which an application ends by itself, if it does. -/
def ownFault? : List Act → Option Fault
  | [] => none
  | .fail message :: _ => some (.application message)
  | .send _ :: rest => ownFault? rest

/-- The application fails. -/
def fails (acts : List Act) : Bool := (ownFault? acts).isSome

/-- Messages that conform are all sent on, and their parts copied in order. -/
theorem relay_copy {acts : List Act} (conforms : ∀ message ∈ sends acts, Conforms message) (before : List Value)
    (parts : List Part) :
    relay copy (.ofParts parts) before acts =
      (before.reverse ++ sends acts,
        (ownFault? acts).elim (.ok (.ofParts (parts ++ (sends acts).filterMap part?))) .error) := by
  induction acts generalizing before parts with
  | nil => simp [relay,sends,ownFault?]
  | cons act rest ih =>
    cases act with
    | fail message => simp [relay,sends,ownFault?]
    | send message =>
      have first : Conforms message := conforms message List.mem_cons_self
      have later : ∀ other ∈ sends rest, Conforms other := fun other member =>
        conforms other (List.mem_cons_of_mem message member)
      simp only [relay,copy_eq first]
      cases carried : part? message with
      | none =>
        have step := ih later (message :: before) parts
        simpa [sends,ownFault?,carried] using step
      | some part =>
        have step := ih later (message :: before) (parts ++ [part])
        rw [← Draft.take_ofParts] at step
        simpa [sends,ownFault?,carried] using step

/-- The method and the path of a request; what is not a request over HTTP has none. -/
def request? (scope : Value) : Option (Text × Text) :=
  (scope.member? "type").bind fun kind =>
    if kind.beq (.str "http") then
      (scope.member? "method").bind fun method => (scope.member? "path").map fun path => (method.plain,path.plain)
    else none

theorem entry_eq_error {name : Text} {v : Value} (missing : v.member? name = none) :
    ∃ fault, entry name v = .error fault := by
  cases v with
  | obj members =>
    have unbound : Value.lookup? name members = none := missing
    exact ⟨.missing name,by simp [entry,unbound]⟩
  | _ => exact ⟨_,rfl⟩

/-- A call is copied when it is a request that is documented. -/
theorem route_eq (r : Registry) (scope : Value) :
    (route r scope).toOption.join = (request? scope).filter fun (method,path) => r.isDocumented method path := by
  unfold route request?
  cases hasKind : scope.member? "type" with
  | none =>
    obtain ⟨fault,stop⟩ := entry_eq_error hasKind
    rw [stop]; rfl
  | some kind =>
    by_cases http : kind.beq (.str "http") = true
    · simp only [entry_eq_ok hasKind,bind,Except.bind,Option.bind_some,http,↓reduceIte]
      cases hasMethod : scope.member? "method" with
      | none =>
        obtain ⟨fault,stop⟩ := entry_eq_error hasMethod
        rw [stop]; rfl
      | some method =>
        cases hasPath : scope.member? "path" with
        | none =>
          obtain ⟨fault,stop⟩ := entry_eq_error hasPath
          rw [entry_eq_ok hasMethod,stop]; rfl
        | some path =>
          rw [entry_eq_ok hasMethod,entry_eq_ok hasPath]
          cases documented : r.isDocumented method.plain path.plain <;>
            simp [documented,Except.toOption,pure,Except.pure,Option.filter]
    · simp only [entry_eq_ok hasKind,bind,Except.bind,Option.bind_some,http]
      rfl

/-- The copy of a response whose application returns. -/
def draft? (acts : List Act) : Option Draft := (relay copy {} [] acts).2.toOption

/-- What a call writes: the sample of its response, if it is a request and the application returns. -/
def entries (scope : Value) (acts : List Act) : List Entry :=
  match request? scope,draft? acts with
  | some (method,path),some d => sampled method path d.sample?
  | _,_ => []

/-- What a call that is passed through would write is lost. -/
theorem replay_entries_passed {r : Registry} {scope : Value}
    (passed : (request? scope).filter (fun (method,path) => r.isDocumented method path) = none) (acts : List Act) :
    r.replay (entries scope acts) = r := by
  unfold entries
  cases asked : request? scope with
  | none => rfl
  | some request =>
    have undocumented : ¬ r.isDocumented request.1 request.2 = true := by
      simpa [asked,Option.filter] using passed
    cases draft? acts with
    | none => rfl
    | some d => exact replay_sampled_undocumented undocumented d.sample?

/-- A call changes the registry by what it writes, whatever is sent in it. -/
theorem serve_registry (r : Registry) (scope : Value) (acts : List Act) :
    (serve r scope acts).registry = r.replay (entries scope acts) := by
  have routed := route_eq r scope
  unfold serve
  split
  · rename_i fault stop
    rw [stop] at routed
    exact (replay_entries_passed routed.symm acts).symm
  · rename_i through
    rw [through] at routed
    have kept := replay_entries_passed routed.symm acts
    split <;> exact kept.symm
  · rename_i method path copied
    rw [copied] at routed
    have asked : request? scope = some (method,path) := (Option.filter_eq_some_iff.mp routed.symm).1
    simp only [entries,asked,draft?]
    split
    · rename_i sent fault relayed
      rw [relayed]
      rfl
    · rename_i sent d relayed
      rw [relayed]
      exact finish_registry d (.asgiFailed method path) method path r

/-- A request whose application returns, as an exchange of its last status and all its octets. -/
def exchange? (scope : Value) (acts : List Act) : Option Exchange :=
  if fails acts then none
  else (request? scope).map fun (method,path) =>
    ⟨method,path,lastStatus ((sends acts).filterMap part?),joined ((sends acts).filterMap part?)⟩

/-- A request that conforms writes the sample of its exchange. -/
theorem entries_of_conforms {scope : Value} {acts : List Act} (conforms : ∀ message ∈ sends acts, Conforms message) :
    entries scope acts = (exchange? scope acts).elim [] Exchange.entries := by
  have copied := relay_copy conforms [] []
  rw [Draft.ofParts_nil] at copied
  unfold entries exchange? draft?
  rw [copied]
  cases own : ownFault? acts with
  | some fault => simp [fails,own,Except.toOption]
  | none =>
    cases request? scope with
    | none => simp [fails,own]
    | some request =>
      simp only [fails,own,Option.isSome_none,Bool.false_eq_true,↓reduceIte,List.nil_append,Except.toOption,
        Option.map_some,Option.elim_none,Option.elim_some,sample?_ofParts request.1 request.2]
      rfl

end ApiDocs.Asgi
