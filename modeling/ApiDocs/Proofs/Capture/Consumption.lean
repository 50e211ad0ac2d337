import ApiDocs.Proofs.Capture.Course

/-!
A request over WSGI as a whole, however much of its response the server pulls. The server sees what the application does,
in its order, up to the first fault or the last chunk that is pulled (`acts_seen`, `pull_seen`), and then the closing of
the iterable, if there is one. The registry gains one sample when the response was pulled to its end without a fault and
has a shape, after everything else, and is the same otherwise (`serve_consumed`).
-/
namespace ApiDocs.Wsgi

open Capture Registry

/-! ### What is done -/

/-- What the server sees of a step. When the request is documented, it is always told about an exception, which may be
    none. -/
def Item.sight? (isCopied : Bool) : Item → Option Sight
  | .act (.start status headers cause) =>
    some (.start status headers (if isCopied then [cause.getD .null] else cause.toList))
  | .act (.write data) => some (.write data)
  | .act (.fail _) => none
  | .chunk data => some (.chunk data)

/-- The fault in which a step ends that cannot be done. -/
def Item.fault? (isStarted : Bool) : Item → Option Fault
  | .act (.fail message) => some (.application message)
  | .act (.write _) => if isStarted then none else some .notStarted
  | _ => none

/-- The step starts the response. -/
def Item.isStart : Item → Bool
  | .act (.start ..) => true
  | _ => false

/-- The steps before the first one that ends in a fault. -/
def doable (isStarted : Bool) : List Item → List Item
  | [] => []
  | step :: rest =>
    if (step.fault? isStarted).isSome then [] else step :: doable (isStarted || step.isStart) rest

/-- The first fault in which a step ends. -/
def firstFault? (isStarted : Bool) : List Item → Option Fault
  | [] => none
  | step :: rest => (step.fault? isStarted).or (firstFault? (isStarted || step.isStart) rest)

/-- The steps up to the last chunk that is pulled. -/
def upTo : Option Nat → List Item → List Item
  | some 0,_ => []
  | _,[] => []
  | left,.act a :: rest => .act a :: upTo left rest
  | left,.chunk data :: rest => .chunk data :: upTo (left.map (· - 1)) rest

theorem prefix_doable (isStarted : Bool) (steps : List Item) : doable isStarted steps <+: steps := by
  induction steps generalizing isStarted with
  | nil => exact List.nil_prefix
  | cons step rest ih =>
    rw [doable]
    split
    · exact List.nil_prefix
    · exact List.cons_prefix_cons.mpr ⟨rfl,ih _⟩

theorem upTo_zero (steps : List Item) : upTo (some 0) steps = [] := by
  rw [upTo]

theorem upTo_act {left : Option Nat} (begun : left ≠ some 0) (a : Act) (rest : List Item) :
    upTo left (.act a :: rest) = .act a :: upTo left rest := by
  cases left with
  | none => rfl
  | some n =>
    cases n with
    | zero => exact absurd rfl begun
    | succ n => rfl

theorem upTo_chunk {left : Option Nat} (begun : left ≠ some 0) (data : Value) (rest : List Item) :
    upTo left (.chunk data :: rest) = .chunk data :: upTo (left.map (· - 1)) rest := by
  cases left with
  | none => rfl
  | some n =>
    cases n with
    | zero => exact absurd rfl begun
    | succ n => rfl

theorem prefix_upTo (left : Option Nat) (steps : List Item) : upTo left steps <+: steps := by
  induction steps generalizing left with
  | nil => cases left with
    | none => exact List.prefix_rfl
    | some n => cases n <;> exact List.prefix_rfl
  | cons step rest ih =>
    by_cases begun : left = some 0
    · rw [begun,upTo_zero]
      exact List.nil_prefix
    · cases step with
      | act a => rw [upTo_act begun]; exact List.cons_prefix_cons.mpr ⟨rfl,ih _⟩
      | chunk data => rw [upTo_chunk begun]; exact List.cons_prefix_cons.mpr ⟨rfl,ih _⟩

/-- Steps run when none of them ends in a fault. -/
theorem runs_iff (isStarted : Bool) (steps : List Item) :
    runs isStarted steps = true ↔ firstFault? isStarted steps = none := by
  induction steps generalizing isStarted with
  | nil => simp [runs,firstFault?]
  | cons step rest ih =>
    cases step with
    | act a => cases a <;> cases isStarted <;> simp [runs,firstFault?,Item.fault?,Item.isStart,ih]
    | chunk data => simp [runs,firstFault?,Item.fault?,Item.isStart,ih]

/-! ### One act -/

/-- An act that conforms ends in its fault, if it has one, and else the server sees it. -/
theorem act_eq (isCopied : Bool) (f : Flight) {a : Act} (conforms : (Item.act a).Conforms) :
    match (Item.act a).fault? f.isStarted with
    | some fault => f.act isCopied a = .error fault
    | none => ∃ g, f.act isCopied a = .ok g ∧ g.isStarted = (f.isStarted || (Item.act a).isStart) ∧
        g.seen = ((Item.act a).sight? isCopied).toList ++ f.seen := by
  cases a with
  | fail => rfl
  | start status headers cause =>
    obtain ⟨code,line⟩ := conforms
    cases isCopied <;> simp [Item.fault?,Item.isStart,Item.sight?,Flight.act,Flight.see,line]
  | write data =>
    cases started : f.isStarted <;> simp [Item.fault?,Item.isStart,Item.sight?,Flight.act,Flight.see,started]

/-! ### All steps -/

/-- How steps end of which those up to the last pulled chunk are done. -/
def finishOf (left : Option Nat) (isStarted : Bool) (steps : List Item) : Finish :=
  match firstFault? isStarted (upTo left steps) with
  | some fault => .failed fault
  | none => if consumes left steps then .complete else .abandoned

/-- The server sees the steps up to the first fault or the last chunk that is pulled, and then they end accordingly. -/
theorem pull_seen (isCopied : Bool) {steps : List Item} (conforms : ∀ step ∈ steps, step.Conforms) (left : Option Nat)
    (begun : left ≠ some 0) (f : Flight) :
    (f.pull isCopied left steps).1.seen =
      ((doable f.isStarted (upTo left steps)).filterMap (·.sight? isCopied)).reverse ++ f.seen ∧
    (f.pull isCopied left steps).2 = finishOf left f.isStarted steps ∧
    (firstFault? f.isStarted (upTo left steps) = none →
      (f.pull isCopied left steps).1.isStarted = (f.isStarted || (upTo left steps).any Item.isStart)) := by
  induction steps generalizing left f with
  | nil =>
    have none : upTo left [] = [] := by cases left with
      | none => rfl
      | some n => cases n <;> rfl
    simp [Flight.pull,none,doable,finishOf,firstFault?,consumes_nil begun]
  | cons step rest ih =>
    have first : step.Conforms := conforms step List.mem_cons_self
    have later : ∀ other ∈ rest, other.Conforms := fun other member =>
      conforms other (List.mem_cons_of_mem step member)
    cases step with
    | act a =>
      have done := act_eq isCopied f first
      rw [upTo_act begun]
      cases fault : (Item.act a).fault? f.isStarted with
      | some stop =>
        rw [fault] at done
        simp [Flight.pull,done,doable,fault,finishOf,upTo_act begun,firstFault?]
      | none =>
        rw [fault] at done
        obtain ⟨g,act,started,seen⟩ := done
        obtain ⟨sights,ending,onwards⟩ := ih later left begun g
        simp only [Flight.pull,act]
        rw [started] at sights ending onwards
        refine ⟨?_,?_,?_⟩
        · rw [sights,seen,doable,fault]
          cases sight : (Item.act a).sight? isCopied <;> simp [sight]
        · rw [ending,finishOf,finishOf,upTo_act begun,firstFault?,fault,consumes_act]
          rfl
        · rw [firstFault?,fault]
          intro unfailing
          rw [onwards unfailing,List.any_cons,Bool.or_assoc]
    | chunk data =>
      have fault : (Item.chunk data).fault? f.isStarted = none := rfl
      rw [upTo_chunk begun]
      by_cases last : left = some 1
      · subst last
        simp [Flight.pull,upTo_zero,doable,finishOf,firstFault?,fault,consumes,chunks,Flight.see,Item.sight?,Item.isStart,
          upTo_chunk begun]
      · obtain ⟨sights,ending,onwards⟩ := ih later _ (further_pulls begun last)
          ({ f with draft := f.draft.add data }.see (.chunk data))
        have started : (Flight.see { f with draft := f.draft.add data } (.chunk data)).isStarted =
            (f.isStarted || (Item.chunk data).isStart) := (Bool.or_false _).symm
        rw [started] at sights ending onwards
        simp only [Flight.pull,last,↓reduceIte]
        refine ⟨?_,?_,?_⟩
        · rw [sights,doable,fault]
          simp [Flight.see,Item.sight?]
        · rw [ending,finishOf,finishOf,upTo_chunk begun,firstFault?,fault,consumes_chunk]
          rfl
        · rw [firstFault?,fault]
          intro unfailing
          rw [onwards unfailing,List.any_cons,Bool.or_assoc]

/-- The server sees what an application does before it returns, up to the first fault. -/
theorem acts_seen (isCopied : Bool) {acts : List Act} (conforms : ∀ step ∈ acts.map Item.act, step.Conforms)
    (f : Flight) :
    (f.acts isCopied acts).1.seen =
      ((doable f.isStarted (acts.map .act)).filterMap (·.sight? isCopied)).reverse ++ f.seen ∧
    (f.acts isCopied acts).2 = firstFault? f.isStarted (acts.map .act) ∧
    (firstFault? f.isStarted (acts.map .act) = none →
      (f.acts isCopied acts).1.isStarted = (f.isStarted || (acts.map Item.act).any Item.isStart)) := by
  have all : ∀ acts : List Act, upTo none (acts.map .act) = acts.map .act := by
    intro acts
    induction acts with
    | nil => rfl
    | cons a rest ih => rw [List.map_cons,upTo_act (by simp),ih]
  have pulled := pull_seen isCopied conforms none (by simp) f
  have acted := pull_acts isCopied none f acts []
  rw [List.append_nil] at acted
  rw [acted,all,finishOf,all] at pulled
  cases called : f.acts isCopied acts with
  | mk g stop =>
    rw [called] at pulled
    cases stop with
    | some fault =>
      obtain ⟨seen,ending,started⟩ := pulled
      refine ⟨seen,?_,started⟩
      cases failed : firstFault? f.isStarted (acts.map .act) with
      | some first => simpa [failed] using ending
      | none => simp [failed,consumes] at ending
    | none =>
      obtain ⟨seen,ending,started⟩ := pulled
      refine ⟨seen,?_,started⟩
      cases failed : firstFault? f.isStarted (acts.map .act) with
      | some first => simp [failed,Flight.pull] at ending
      | none => rfl

/-! ### A request -/

/-- What an application does before it returns its iterable goes to its end. -/
def App.returns (app : App) : Bool := runs false (app.pre.map .act)

/-- The response is started when the application returns its iterable. -/
def App.isStarted (app : App) : Bool := (app.pre.map Item.act).any Item.isStart

/-- What is reached of an application when at most so many chunks of it are pulled. -/
def App.reached (app : App) (pulls : Option Nat) : List Item := app.pre.map .act ++ upTo pulls app.items

/-- The status of the last start of a response, and 200 when there is none. -/
def statusOf (app : App) : Int := lastStatus (app.steps.filterMap Item.part?)

/-- The octets that are written and yielded, in order. -/
def bodyOf (app : App) : Bytes := joined (app.steps.filterMap Item.part?)

/-- A response is captured with a shape: the server pulls past the last chunk, nothing goes wrong, and the whole body has
    that shape. -/
structure Captured (app : App) (pulls : Option Nat) (shape : Value) : Prop where
  isConsumed : consumes pulls app.steps = true
  unfailing : runs false app.steps = true
  hasShape : redactBody (.foreign (.bytes (bodyOf app))) = .ok (some shape)

theorem upTo_steps (app : App) {pulls : Option Nat} (begun : pulls ≠ some 0) :
    upTo pulls app.steps = app.reached pulls := by
  unfold App.steps App.reached
  induction app.pre with
  | nil => rfl
  | cons a rest ih => simp only [List.map_cons,List.cons_append,upTo_act begun,ih]

/-- What the server sees is what the application does first. -/
theorem prefix_reached (app : App) (pulls : Option Nat) : doable false (app.reached pulls) <+: app.steps :=
  (prefix_doable false _).trans (List.prefix_append_right_inj _ |>.mpr (prefix_upTo pulls app.items))

/-- The iterable is closed. -/
def Sight.isClosed : Sight → Bool
  | .closed => true
  | _ => false

/-- No step closes the iterable. -/
theorem filter_closed_steps (isCopied : Bool) (steps : List Item) :
    (steps.filterMap (·.sight? isCopied)).filter Sight.isClosed = [] := by
  refine List.filter_eq_nil_iff.mpr ?_
  intro sight member
  obtain ⟨step,_,seen⟩ := List.mem_filterMap.mp member
  cases step with
  | act a => cases a <;> simp [Item.sight?] at seen <;> simp [← seen,Sight.isClosed]
  | chunk data => simp [Item.sight?] at seen; simp [← seen,Sight.isClosed]

theorem firstFault?_append (isStarted : Bool) (steps more : List Item) :
    firstFault? isStarted (steps ++ more) =
      (firstFault? isStarted steps).or (firstFault? (isStarted || steps.any Item.isStart) more) := by
  induction steps generalizing isStarted with
  | nil => simp [firstFault?]
  | cons step rest ih => simp only [List.cons_append,firstFault?,ih,Option.or_assoc,List.any_cons,Bool.or_assoc]

/-- A documented request is seen from the first pull on, and the iterable of the application is closed whenever it
    returned one. -/
theorem serveDocumented_seen (r : Registry) (method path : Text) {app : App}
    (conforms : ∀ step ∈ app.steps, step.Conforms) (pulls : Option Nat) :
    (serveDocumented r method path app pulls).seen =
      .returned :: (if pulls = some 0 then []
        else .called :: (doable false (app.reached pulls)).filterMap (·.sight? true) ++
          if app.returns && app.hasClose then [.closed] else []) ∧
    (serveDocumented r method path app pulls).fault =
      if pulls = some 0 then none else firstFault? false (app.reached pulls) := by
  have inner : ∀ step ∈ app.pre.map Item.act, step.Conforms := fun step member =>
    conforms step (List.mem_append_left _ member)
  unfold serveDocumented
  by_cases unpulled : pulls = some 0
  · simp [unpulled,Flight.see]
  · simp only [unpulled,↓reduceIte]
    -- What is seen is known of all steps together; the call is taken apart only for whether there is an iterable to close.
    obtain ⟨seen,ending,_⟩ := pull_seen true conforms pulls unpulled ((({} : Flight).see .returned).see .called)
    obtain ⟨_,failed,_⟩ := acts_seen true inner ((({} : Flight).see .returned).see .called)
    have split := pull_acts true pulls ((({} : Flight).see .returned).see .called) app.pre app.items
    have started : ((({} : Flight).see .returned).see .called).isStarted = false := rfl
    rw [upTo_steps app unpulled,started] at seen
    rw [finishOf,upTo_steps app unpulled,started] at ending
    rw [started] at failed
    have returns : app.returns = true ↔ firstFault? false (app.pre.map .act) = none := runs_iff false _
    cases called : ((({} : Flight).see .returned).see .called).acts true app.pre with
    | mk f stop =>
      rw [called] at split failed
      cases stop with
      | some fault =>
        have stays : app.returns = false := by simpa [← failed] using returns
        have stops : firstFault? false (app.reached pulls) = some fault := by
          rw [App.reached,firstFault?_append,← failed]
          rfl
        rw [App.steps,split] at seen
        simp [Flight.see,stays,stops,show f.seen = _ from seen]
      | none =>
        have goes : app.returns = true := returns.mpr failed.symm
        rw [App.steps,split] at seen
        rw [App.steps,split] at ending
        cases pulled : f.pull true pulls app.items with
        | mk g finish =>
          simp only [pulled] at seen ending ⊢
          have closed : (g.close app).seen.reverse = .returned :: .called ::
              (doable false (app.reached pulls)).filterMap (·.sight? true) ++
                if app.returns && app.hasClose then [.closed] else [] := by
            unfold Flight.close
            cases app.hasClose <;> simp [seen,goes,Flight.see]
          rw [ending]
          cases firstFault? false (app.reached pulls) with
          | some fault => exact ⟨closed,rfl⟩
          | none => cases consumes pulls (app.pre.map .act ++ app.items) <;> exact ⟨closed,rfl⟩

/-- A request that is not documented is seen as the application makes it. -/
theorem serveOther_seen (r : Registry) {app : App} (conforms : ∀ step ∈ app.steps, step.Conforms)
    (pulls : Option Nat) :
    (serveOther r app pulls).seen =
      .called :: (doable false (app.pre.map .act)).filterMap (·.sight? false) ++
        (if app.returns then
          .returned :: (doable app.isStarted (upTo pulls app.items)).filterMap (·.sight? false)
        else []) ∧
    (serveOther r app pulls).fault = firstFault? false (app.reached pulls) := by
  have inner : ∀ step ∈ app.pre.map Item.act, step.Conforms := fun step member =>
    conforms step (List.mem_append_left _ member)
  have outer : ∀ step ∈ app.items, step.Conforms := fun step member => conforms step (List.mem_append_right _ member)
  obtain ⟨seen,failed,started⟩ := acts_seen false inner (({} : Flight).see .called)
  have returns : app.returns = true ↔ firstFault? false (app.pre.map .act) = none := runs_iff false _
  unfold serveOther
  rw [App.reached,firstFault?_append]
  cases called : (({} : Flight).see .called).acts false app.pre with
  | mk f stop =>
    rw [called] at seen failed started
    have failed : stop = firstFault? false (app.pre.map .act) := failed
    rw [← failed] at returns ⊢
    cases stop with
    | some fault =>
      have stays : app.returns = false := by simpa using returns
      simp [show f.seen = _ from seen,stays,Flight.see]
    | none =>
      have goes : app.returns = true := returns.mpr rfl
      have begun : f.isStarted = app.isStarted := started failed.symm
      simp only [goes,↓reduceIte]
      by_cases unpulled : pulls = some 0
      · simp [unpulled,upTo_zero,doable,firstFault?,show f.seen = _ from seen,Flight.see]
      · obtain ⟨sights,ending,_⟩ := pull_seen false outer pulls unpulled (f.see .returned)
        simp only [unpulled,↓reduceIte]
        cases pulled : (f.see .returned).pull false pulls app.items with
        | mk g finish =>
          rw [pulled,show (f.see .returned).isStarted = app.isStarted from begun] at sights ending
          have told : g.seen.reverse = .called :: (doable false (app.pre.map .act)).filterMap (·.sight? false) ++
              .returned :: (doable app.isStarted (upTo pulls app.items)).filterMap (·.sight? false) := by
            simp [show g.seen = _ from sights,show f.seen = _ from seen,Flight.see]
          have ending : finish = finishOf pulls app.isStarted app.items := ending
          rw [ending,finishOf]
          show _ ∧ _ = Option.or none (firstFault? app.isStarted _)
          cases firstFault? app.isStarted (upTo pulls app.items) with
          | some fault => exact ⟨told,rfl⟩
          | none => cases consumes pulls app.items <;> exact ⟨told,rfl⟩

/-! ### The registry and the server -/

/-- What comes of a documented request. -/
structure DocumentedOutcome (r : Registry) (method path : Text) (app : App) (pulls : Option Nat) (served : Served) :
    Prop where
  /-- The application is called by the first pull, what is reached of it is seen in its order, and its iterable is closed
      if it returned one that can be. -/
  seen : served.seen =
    .returned :: (if pulls = some 0 then []
      else .called :: (doable false (app.reached pulls)).filterMap (·.sight? true) ++
        if app.returns && app.hasClose then [.closed] else [])
  /-- It is closed once, however the iteration ends. -/
  closings : (served.seen.filter Sight.isClosed).length =
    if pulls ≠ some 0 ∧ app.returns = true ∧ app.hasClose = true then 1 else 0
  fault : served.fault = if pulls = some 0 then none else firstFault? false (app.reached pulls)
  /-- The registry changes exactly when the response is captured with a shape. -/
  changes : served.registry ≠ r ↔ ∃ shape, Captured app pulls shape
  sample : ∀ shape, Captured app pulls shape →
    r.append? (endpointKey method path) ⟨shape,statusOf app⟩ = some served.registry ∧
    ∀ key, served.registry.samples key =
      r.samples key ++ if endpointKey method path = key then [⟨shape,statusOf app⟩] else []
  /-- When a turn of the request changes the registry, everything was seen before it. -/
  recordedLast : ∀ n,
    (Course.turns method path app pulls r (n+1)).1 ≠ (Course.turns method path app pulls r n).1 →
    (Course.turns method path app pulls r n).2.flight.seen.reverse = served.seen
  /-- After its turns the request has ended like this. -/
  ends : ∃ last, ∀ n, last ≤ n →
    (Course.turns method path app pulls r n).1 = served.registry ∧
    (Course.turns method path app pulls r n).2.flight.seen.reverse = served.seen

/-- What comes of a request that is not documented: it goes to the application as it is, and nothing is recorded. -/
structure OtherOutcome (r : Registry) (app : App) (pulls : Option Nat) (served : Served) : Prop where
  seen : served.seen =
    .called :: (doable false (app.pre.map .act)).filterMap (·.sight? false) ++
      (if app.returns then
        .returned :: (doable app.isStarted (upTo pulls app.items)).filterMap (·.sight? false)
      else [])
  fault : served.fault = firstFault? false (app.reached pulls)
  unchanged : served.registry = r

section

variable {r : Registry} {method path : Text} {app : App} {pulls : Option Nat}

/-- A documented request that is captured adds the sample of its response. -/
theorem Captured.registry (conforms : ∀ step ∈ app.steps, step.Conforms) {shape : Value}
    (captured : Captured app pulls shape) :
    (serve r method path app pulls).registry = r.offer (endpointKey method path) ⟨shape,statusOf app⟩ := by
  have sample : Exchange.sample? ⟨method,path,statusOf app,bodyOf app⟩ = some ⟨shape,statusOf app⟩ := by
    rw [← sampleOf?_eq,sampleOf?_eq_some]
    exact ⟨shape,captured.hasShape,rfl⟩
  have exchanged : exchange? method path app pulls = some ⟨method,path,statusOf app,bodyOf app⟩ := by
    rw [exchange?,captured.unfailing,captured.isConsumed]
    rfl
  rw [serve_registry,entries_of_conforms conforms,exchanged,Option.elim_some,Exchange.entries,sample]
  rfl

/-- A request that is not captured leaves the registry as it was. -/
theorem registry_of_not_captured (conforms : ∀ step ∈ app.steps, step.Conforms)
    (passed : ¬ ∃ shape, Captured app pulls shape) : (serve r method path app pulls).registry = r := by
  rw [serve_registry,entries_of_conforms conforms,exchange?]
  by_cases whole : (runs false app.steps && consumes pulls app.steps) = true
  · obtain ⟨unfailing,isConsumed⟩ := (Bool.and_eq_true_iff).mp whole
    have silent : Exchange.sample? ⟨method,path,statusOf app,bodyOf app⟩ = none := by
      rw [← sampleOf?_eq,Option.eq_none_iff_forall_not_mem]
      intro sample found
      obtain ⟨shape,hasShape,_⟩ := (sampleOf?_eq_some _ _ sample).mp found
      exact passed ⟨shape,isConsumed,unfailing,hasShape⟩
    rw [if_pos whole,Option.elim_some,Exchange.entries]
    show r.replay (sampled method path (Exchange.sample? ⟨method,path,statusOf app,bodyOf app⟩)) = r
    rw [silent]
    rfl
  · rw [if_neg whole]
    rfl

/-- One request, end to end, however much of its response is pulled. -/
theorem serve_consumed (r : Registry) (method mount path : Text) (app : App) (pulls : Option Nat)
    (conforms : ∀ step ∈ app.steps, step.Conforms) :
    doable false (app.reached pulls) <+: app.steps ∧
    (r.isDocumented method (requestPath mount path) = true →
      DocumentedOutcome r method (requestPath mount path) app pulls
        (serve r method (requestPath mount path) app pulls)) ∧
    (r.isDocumented method (requestPath mount path) = false →
      OtherOutcome r app pulls (serve r method (requestPath mount path) app pulls)) := by
  refine ⟨prefix_reached app pulls,fun documented => ?_,fun undocumented => ?_⟩
  · have served : serve r method (requestPath mount path) app pulls =
        serveDocumented r method (requestPath mount path) app pulls := if_pos documented
    obtain ⟨seen,fault⟩ := serveDocumented_seen r method (requestPath mount path) conforms pulls
    have adds : ∀ shape, Captured app pulls shape → ∀ key,
        (serve r method (requestPath mount path) app pulls).registry.samples key = r.samples key ++
          if endpointKey method (requestPath mount path) = key then [⟨shape,statusOf app⟩] else [] := by
      intro shape captured key
      rw [captured.registry conforms]
      exact samples_offer ((contains_iff r _).mp documented) _ key
    refine ⟨served ▸ seen,?_,served ▸ fault,⟨?_,?_⟩,fun shape captured => ⟨?_,adds shape captured⟩,?_,?_⟩
    · rw [served,seen]
      by_cases unpulled : pulls = some 0
      · simp [unpulled,Sight.isClosed]
      · cases app.returns <;> cases app.hasClose <;>
          simp [unpulled,Sight.isClosed,filter_closed_steps,List.filter_cons]
    · intro changed
      by_contra passed
      exact changed (registry_of_not_captured conforms passed)
    · rintro ⟨shape,captured⟩ same
      have more := adds shape captured (endpointKey method (requestPath mount path))
      rw [same,if_pos rfl] at more
      exact absurd (congrArg List.length more) (by simp)
    · rw [captured.registry conforms]
      exact append?_eq_offer ((contains_iff r _).mp documented) _
    · intro n changes
      rw [served]
      exact Course.seen_of_recorded method (requestPath mount path) app pulls r changes
    · refine ⟨app.pre.length + app.items.length + 5,fun n enough => ?_⟩
      rw [served]
      exact Course.turns_ended method (requestPath mount path) app pulls r enough
  · have passed : ¬ r.isDocumented method (requestPath mount path) = true := by simp [undocumented]
    have served : serve r method (requestPath mount path) app pulls = serveOther r app pulls := if_neg passed
    obtain ⟨seen,fault⟩ := serveOther_seen r conforms pulls
    exact ⟨served ▸ seen,served ▸ fault,served ▸ serveOther_registry r app pulls⟩

end

/-- The response is started twice, and its body, which is false, is written and yielded in parts. -/
private def restarted : App where
  pre := [.start (.str "200 OK") (.arr []) none,.write (.foreign (.bytes [0x66,0x61]))]
  items := [.chunk (.foreign (.bytes [0x6C])),.act (.start (.str "404 Not Found") (.arr []) none),
    .chunk (.foreign (.bytes [0x73,0x65]))]
  hasClose := true

private def oneRoute : Registry := .ofList [{ method := "GET", path := "/v1/a" }]

theorem serve_consumed_restarted :
    (∀ step ∈ restarted.steps, step.Conforms) ∧
    (serve oneRoute "GET" (requestPath "/v1" "/a") restarted none).registry.samples (endpointKey "GET" "/v1/a") =
      [⟨.bool false,404⟩] ∧
    (serve oneRoute "GET" (requestPath "/v1" "/a") restarted (some 2)).registry = oneRoute ∧
    (serve oneRoute "GET" (requestPath "/v1" "/a") restarted (some 2)).seen.length = 8 := by
  have starts (line : Text) (code : Int) (read : statusOfLine (.str line) = .ok code) :
      (Item.act (.start (.str line) (.arr []) none)).Conforms := ⟨code,read⟩
  have conforms : ∀ step ∈ restarted.steps, step.Conforms := by
    intro step member
    simp only [restarted,App.steps,List.map_cons,List.map_nil,List.cons_append,List.nil_append,List.mem_cons,
      List.not_mem_nil,or_false] at member
    rcases member with rfl | rfl | rfl | rfl | rfl
    · exact starts _ 200 rfl
    · exact ⟨_,rfl⟩
    · exact ⟨_,rfl⟩
    · exact starts _ 404 rfl
    · exact ⟨_,rfl⟩
  obtain ⟨_,consumed,_⟩ := serve_consumed oneRoute "GET" "/v1" "/a" restarted none conforms
  obtain ⟨_,abandoned,_⟩ := serve_consumed oneRoute "GET" "/v1" "/a" restarted (some 2) conforms
  have documented : oneRoute.isDocumented "GET" (requestPath "/v1" "/a") = true := by decide
  have captured : Captured restarted none (.bool false) := ⟨rfl,rfl,rfl⟩
  have passed : ¬ ∃ shape, Captured restarted (some 2) shape := by
    rintro ⟨shape,captured⟩
    exact absurd captured.isConsumed (by decide)
  refine ⟨conforms,(((consumed documented).sample _ captured).2 _).trans rfl,?_,?_⟩
  · by_contra changed
    exact passed ((abandoned documented).changes.mp changed)
  · rw [(abandoned documented).seen]
    rfl

end ApiDocs.Wsgi
