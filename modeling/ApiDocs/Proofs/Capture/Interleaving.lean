import ApiDocs.Proofs.Capture.Course
import ApiDocs.Proofs.Capture.Run

/-!
Requests in flight on one registry. Each takes its steps at any times between those of the others: whether it is
documented is asked, then one message is sent, or one thing done or pulled, at a time, and at last the response is
recorded. What a request has still to record is settled by its own steps alone (`Progress.toRecord?_next`), so however the
steps are interleaved, the registry is the one after the requests that finished, one after another in the order in which
they did (`run_serial`).
-/
namespace ApiDocs.Capture

open Registry

/-- A request over ASGI or over WSGI. -/
inductive Request where
  | asgi (scope : Value) (acts : List Asgi.Act)
  | wsgi (environ : Wsgi.Environ) (app : Wsgi.App) (pulls : Option Nat)

/-- A request as an attempt to record its response. -/
def Request.attempt : Request → Attempt
  | asgi scope acts => .asgi scope acts
  | wsgi environ app pulls => .wsgi environ app pulls

/-- A request as an action on a registry. -/
def Request.action (q : Request) : Action := .attempt q.attempt

/-- The method and the path of a request are documented. -/
def Request.IsDocumented (r : Registry) : Request → Prop
  | asgi scope _ => ∃ method path, Asgi.request? scope = some (method,path) ∧ r.isDocumented method path = true
  | wsgi environ _ _ => r.isDocumented environ.method environ.path = true

/-! ### One request -/

/-- How far a request has come. -/
inductive Progress where
  | begun (q : Request)
  /-- The application has still to do these acts, and what it sent was copied. -/
  | asgi (method path : Text) (d : Draft) (acts : List Asgi.Act)
  | wsgi (method path : Text) (app : Wsgi.App) (pulls : Option Nat) (c : Wsgi.Course)
  /-- The request is not recorded any more: it finished, it failed, or it is passed through. -/
  | ended

namespace Progress

/-- The request after its next step. -/
def next (r : Registry) : Progress → Progress
  | begun (.asgi scope acts) =>
    match Asgi.route r scope with
    | .ok (some (method,path)) => asgi method path {} acts
    | _ => ended
  | begun (.wsgi environ app pulls) =>
    if r.isDocumented environ.method environ.path then wsgi environ.method environ.path app pulls {} else ended
  | asgi method path d (.send message :: rest) =>
    match Asgi.copy d message with
    | .error _ => ended
    | .ok d => asgi method path d rest
  | asgi _ _ _ _ => ended
  | wsgi method path app pulls c =>
    match c.stage with
    | .recording => ended
    | _ => wsgi method path app pulls (c.next app pulls)
  | ended => ended

/-- The next step is the one that records the response. -/
def finishes : Progress → Bool
  | asgi _ _ _ [] => true
  | wsgi _ _ _ _ c =>
    match c.stage with
    | .recording => true
    | _ => false
  | _ => false

/-- The registry after the next step. -/
def write (r : Registry) : Progress → Registry
  | asgi method path d [] => (d.finish (.asgiFailed method path) method path r).1
  | wsgi method path _ _ c => c.write method path r
  | _ => r

/-- The request and the copy that a request has still to record, if it comes to that. -/
def toRecord? : Progress → Option (Text × Text × Draft)
  | begun (.asgi scope acts) =>
    (Asgi.request? scope).bind fun (method,path) => (Asgi.draft? acts).map fun d => (method,path,d)
  | begun (.wsgi environ app pulls) =>
    (Wsgi.draft? app pulls).map fun d => (environ.method,environ.path,d)
  | asgi method path d acts => (Asgi.relay Asgi.copy d [] acts).2.toOption.map fun d => (method,path,d)
  | wsgi method path app pulls c => (c.toRecord? app pulls).map fun d => (method,path,d)
  | ended => none

/-- The number of steps after which a request has come to its end at the latest. -/
def remaining : Progress → Nat
  | begun (.asgi _ acts) => acts.length + 2
  | begun (.wsgi _ app _) => app.pre.length + app.items.length + 6
  | asgi _ _ _ acts => acts.length + 1
  | wsgi _ _ app _ c => c.remaining app
  | ended => 0

end Progress

/-- What comes of the messages does not depend on those that were sent before. -/
theorem relay_snd (copy : Draft → Value → Except Fault Draft) (d : Draft) (sent : List Value) (acts : List Asgi.Act) :
    (Asgi.relay copy d sent acts).2 = (Asgi.relay copy d [] acts).2 := by
  induction acts generalizing d sent with
  | nil => rfl
  | cons act rest ih =>
    cases act with
    | fail message => rfl
    | send message =>
      simp only [Asgi.relay]
      cases copy d message with
      | error fault => rfl
      | ok d => rw [ih d (message :: sent),ih d [message]]

/-- A documented request over ASGI is copied. -/
theorem route_of_documented {r : Registry} {scope : Value} {method path : Text}
    (asked : Asgi.request? scope = some (method,path)) (documented : r.isDocumented method path = true) :
    Asgi.route r scope = .ok (some (method,path)) := by
  have routed := Asgi.route_eq r scope
  rw [asked] at routed
  cases target : Asgi.route r scope with
  | error fault => simp [target,Except.toOption,Option.filter,documented] at routed
  | ok found => simpa [target,Except.toOption,Option.filter,documented] using routed

namespace Progress

/-- What a request has to record is settled by its own steps, until it is recorded. -/
theorem toRecord?_next {r : Registry} {p : Progress} (documented : ∀ q, p = begun q → q.IsDocumented r)
    (kept : p.finishes = false) : (p.next r).toRecord? = p.toRecord? := by
  cases p with
  | begun q =>
    cases q with
    | asgi scope acts =>
      obtain ⟨method,path,asked,known⟩ := documented _ rfl
      simp only [next,route_of_documented asked known,toRecord?,asked,Option.bind_some]
      rfl
    | wsgi environ app pulls =>
      have known : r.isDocumented environ.method environ.path = true := documented _ rfl
      simp only [next,known,↓reduceIte,toRecord?,Wsgi.Course.toRecord?_start]
  | asgi method path d acts =>
    cases acts with
    | nil => cases kept
    | cons act rest =>
      cases act with
      | fail message => rfl
      | send message =>
        cases copied : Asgi.copy d message with
        | error fault => simp [next,toRecord?,Asgi.relay,copied,Except.toOption]
        | ok e => simp [next,toRecord?,Asgi.relay,copied,relay_snd _ e [message]]
  | wsgi method path app pulls c =>
    have unrecorded : c.stage ≠ .recording := by
      intro recording
      simp [finishes,recording] at kept
    have step : next r (wsgi method path app pulls c) = wsgi method path app pulls (c.next app pulls) := by
      simp only [next]
    rw [step,toRecord?,toRecord?,Wsgi.Course.toRecord?_next app pulls unrecorded]
  | ended => rfl

/-- A step that does not finish its request leaves the registry as it was. -/
theorem write_of_not_finishes {p : Progress} (kept : p.finishes = false) (r : Registry) : p.write r = r := by
  cases p with
  | begun q => rfl
  | asgi method path d acts =>
    cases acts with
    | nil => cases kept
    | cons act rest => rfl
  | wsgi method path app pulls c =>
    obtain ⟨stage,f⟩ := c
    cases stage with
    | recording => cases kept
    | _ => rfl
  | ended => rfl

/-- A step that finishes its request records what there is to record, and the request has ended. -/
theorem write_of_finishes {p : Progress} (finishing : p.finishes = true) (r : Registry) :
    p.next r = ended ∧ ∃ method path d, p.toRecord? = some (method,path,d) ∧
      p.write r = r.replay (sampled method path d.sample?) := by
  cases p with
  | begun q => cases finishing
  | asgi method path d acts =>
    cases acts with
    | nil => exact ⟨rfl,method,path,d,rfl,finish_registry d _ method path r⟩
    | cons act rest => cases finishing
  | wsgi method path app pulls c =>
    obtain ⟨stage,f⟩ := c
    cases stage with
    | recording => exact ⟨rfl,method,path,f.draft,rfl,finish_registry f.draft _ method path r⟩
    | _ => cases finishing
  | ended => cases finishing

/-- Every step brings a request nearer to its end. -/
theorem remaining_next (r : Registry) (p : Progress) : (p.next r).remaining ≤ p.remaining - 1 := by
  cases p with
  | begun q =>
    cases q with
    | asgi scope acts =>
      simp only [next]
      split
      · exact Nat.le_refl _
      · exact Nat.zero_le _
    | wsgi environ app pulls =>
      simp only [next]
      split
      · exact Nat.le_refl _
      · exact Nat.zero_le _
  | asgi method path d acts =>
    cases acts with
    | nil => exact Nat.zero_le _
    | cons act rest =>
      cases act with
      | fail message => exact Nat.zero_le _
      | send message => cases copied : Asgi.copy d message <;> simp [next,copied,remaining]
  | wsgi method path app pulls c =>
    simp only [next]
    split
    · exact Nat.zero_le _
    · exact Wsgi.Course.remaining_next app pulls c
  | ended => exact Nat.le_refl _

/-- A request that has come to its end has nothing to record. -/
theorem toRecord?_of_remaining {p : Progress} (ended : p.remaining = 0) : p.toRecord? = none := by
  cases p with
  | begun q => cases q <;> simp [remaining] at ended
  | asgi method path d acts => simp [remaining] at ended
  | wsgi method path app pulls c =>
    obtain ⟨stage,f⟩ := c
    cases stage with
    | ended finish => rfl
    | _ => simp [remaining,Wsgi.Course.remaining] at ended
  | ended => rfl

end Progress

/-- What a request writes is what it has to record from its beginning on. -/
theorem Request.entries_attempt (q : Request) :
    q.attempt.entries =
      (Progress.begun q).toRecord?.elim [] fun (method,path,d) => sampled method path d.sample? := by
  cases q with
  | asgi scope acts =>
    show Asgi.entries scope acts = _
    unfold Asgi.entries
    simp only [Progress.toRecord?]
    cases Asgi.request? scope with
    | none => rfl
    | some request => cases Asgi.draft? acts <;> rfl
  | wsgi environ app pulls =>
    show Wsgi.entries environ.method environ.path app pulls = _
    unfold Wsgi.entries
    simp only [Progress.toRecord?]
    cases Wsgi.draft? app pulls <;> rfl

/-- A request that conforms has its own exchange to record. -/
theorem Request.toRecord?_of_conforms {q : Request} (conforms : q.attempt.Conforms) :
    (Progress.begun q).toRecord? = q.attempt.exchange?.map fun x => (x.method,x.path,⟨x.status,some x.body⟩) := by
  cases q with
  | asgi scope acts =>
    have copied := Asgi.relay_copy conforms [] []
    rw [Draft.ofParts_nil] at copied
    show (Asgi.request? scope).bind _ = (Asgi.exchange? scope acts).map _
    unfold Asgi.exchange? Asgi.draft?
    rw [copied]
    cases own : Asgi.ownFault? acts with
    | some fault => cases Asgi.request? scope <;> simp [Asgi.fails,own,Except.toOption]
    | none => cases Asgi.request? scope <;> simp [Asgi.fails,own,Except.toOption,Draft.ofParts]
  | wsgi environ app pulls =>
    show (Wsgi.draft? app pulls).map _ = (Wsgi.exchange? environ.method environ.path app pulls).map _
    unfold Wsgi.draft? Wsgi.exchange?
    by_cases unpulled : pulls = some 0
    · simp [unpulled,Wsgi.consumes]
    · rw [if_neg unpulled,Wsgi.completed_pull conforms pulls unpulled _ [] Draft.ofParts_nil.symm,List.nil_append]
      show Option.map _ (if Wsgi.runs false app.steps && Wsgi.consumes pulls app.steps then _ else _) = _
      split <;> rfl

/-- What a documented request records, it records under a registered key. -/
theorem Request.key_mem_of_documented {r : Registry} {q : Request} (documented : q.IsDocumented r) {x : Exchange}
    (found : q.attempt.exchange? = some x) : x.key ∈ r.keys := by
  cases q with
  | asgi scope acts =>
    obtain ⟨method,path,asked,known⟩ := documented
    have found : Asgi.exchange? scope acts = some x := found
    unfold Asgi.exchange? at found
    split at found
    · cases found
    · rw [asked] at found
      cases found
      exact (r.contains_iff _).mp known
  | wsgi environ app pulls =>
    have found : Wsgi.exchange? environ.method environ.path app pulls = some x := found
    unfold Wsgi.exchange? at found
    split at found
    · cases found
      exact (r.contains_iff _).mp documented
    · cases found

/-! ### All requests -/

/-- A registry with the requests on it, and the places of those that finished, in the order in which they did. -/
structure System where
  registry : Registry
  requests : List Progress
  finished : List Nat := []

namespace System

/-- All requests are at their beginnings. -/
def start (r : Registry) (qs : List Request) : System := { registry := r, requests := qs.map .begun }

/-- The request in a place takes its next step. -/
def step (s : System) (i : Nat) : System :=
  match s.requests[i]? with
  | none => s
  | some p => ⟨p.write s.registry,s.requests.set i (p.next s.registry),if p.finishes then s.finished ++ [i] else s.finished⟩

/-- The requests take their steps in the order of a schedule. -/
def run (s : System) (schedule : List Nat) : System := schedule.foldl step s

end System

/-- The requests in some places. -/
def picked (qs : List Request) (places : List Nat) : List Request := places.filterMap fun i => qs[i]?

/-- The registry is the one after the requests that finished, and the others have still to record what they had. -/
structure System.Sound (r : Registry) (qs : List Request) (s : System) : Prop where
  keys : s.registry.keys = r.keys
  serial : s.registry = Capture.run r ((picked qs s.finished).map Request.action)
  distinct : s.finished.Nodup
  recorded : ∀ i ∈ s.finished, s.requests[i]? = some .ended ∧
    ∃ q, qs[i]? = some q ∧ (Progress.begun q).toRecord?.isSome = true
  pending : ∀ i p, s.requests[i]? = some p → i ∉ s.finished →
    ∃ q, qs[i]? = some q ∧ p.toRecord? = (Progress.begun q).toRecord?
  documented : ∀ (i : Nat) q, s.requests[i]? = some (.begun q) → q.IsDocumented r

namespace System

variable {r : Registry} {qs : List Request}

theorem sound_start (documented : ∀ q ∈ qs, q.IsDocumented r) : Sound r qs (start r qs) := by
  refine ⟨rfl,rfl,List.nodup_nil,fun i member => absurd member List.not_mem_nil,?_,?_⟩
  · intro i p found _
    obtain ⟨q,known,rfl⟩ := Option.map_eq_some_iff.mp (List.getElem?_map ▸ found)
    exact ⟨q,known,rfl⟩
  · intro i q found
    obtain ⟨p,known,same⟩ := Option.map_eq_some_iff.mp (List.getElem?_map ▸ found)
    cases same
    exact documented q (List.mem_of_getElem? known)

theorem isDocumented_of_keys {s : Registry} (same : s.keys = r.keys) {q : Request} (documented : q.IsDocumented r) :
    q.IsDocumented s := by
  have kept (method path : Text) (known : r.isDocumented method path = true) : s.isDocumented method path = true :=
    (s.contains_iff _).mpr (same ▸ (r.contains_iff _).mp known)
  cases q with
  | asgi scope acts =>
    obtain ⟨method,path,asked,known⟩ := documented
    exact ⟨method,path,asked,kept method path known⟩
  | wsgi environ app pulls => exact kept _ _ documented

theorem next_ne_begun (r : Registry) (p : Progress) (q : Request) : p.next r ≠ .begun q := by
  unfold Progress.next
  split <;> (try split) <;> simp

/-- A step begins no request. -/
theorem Sound.documented_set {s : System} (sound : Sound r qs s) {i : Nat} (p : Progress) {j : Nat} {q : Request}
    (found : (s.requests.set i (p.next s.registry))[j]? = some (.begun q)) : q.IsDocumented r := by
  by_cases same : i = j
  · subst same
    rw [List.getElem?_set_self'] at found
    obtain ⟨_,_,begun⟩ := Option.map_eq_some_iff.mp found
    exact absurd begun (next_ne_begun _ p q)
  · rw [List.getElem?_set_ne same] at found
    exact sound.documented j q found

/-- The step that finishes a request serves it behind those that finished before. -/
theorem Sound.finish {s : System} (sound : Sound r qs s) {i : Nat} {p : Progress} (found : s.requests[i]? = some p)
    (finishing : p.finishes = true) :
    Sound r qs ⟨p.write s.registry,s.requests.set i (p.next s.registry),s.finished ++ [i]⟩ := by
  obtain ⟨inside,_⟩ := List.getElem?_eq_some_iff.mp found
  obtain ⟨ended,method,path,d,copied,written⟩ := Progress.write_of_finishes finishing s.registry
  have fresh : i ∉ s.finished := by
    intro member
    rw [(sound.recorded i member).1] at found
    cases found
    cases finishing
  obtain ⟨q,known,settled⟩ := sound.pending i p found fresh
  -- What it records was settled before the others moved, so it writes here what it would write alone.
  have applied : p.write s.registry = q.action.apply s.registry := by
    rw [written,Request.action,Action.apply,Attempt.apply_eq,Request.entries_attempt,← settled,copied]
    rfl
  refine ⟨?_,?_,?_,?_,?_,fun j q at_ => sound.documented_set p at_⟩
  · rw [applied]
    exact (q.attempt.keeps s.registry).1.trans sound.keys
  · have more : picked qs (s.finished ++ [i]) = picked qs s.finished ++ [q] := by
      simp [picked,known]
    rw [applied,more,List.map_append,Capture.run,List.foldl_append]
    conv_lhs => rw [sound.serial]
    rfl
  · refine List.nodup_append.mpr ⟨sound.distinct,by simp,?_⟩
    rintro j member k new rfl
    exact fresh (List.mem_singleton.mp new ▸ member)
  · intro j member
    rcases List.mem_append.mp member with old | new
    · have other : i ≠ j := by
        rintro rfl
        exact fresh old
      rw [List.getElem?_set_ne other]
      exact sound.recorded j old
    · obtain rfl := List.mem_singleton.mp new
      rw [List.getElem?_set_self inside,ended]
      exact ⟨rfl,q,known,by rw [← settled,copied]; rfl⟩
  · intro j other at_ unfinished
    have elsewhere : i ≠ j := by
      rintro rfl
      exact unfinished (List.mem_append_right _ List.mem_cons_self)
    rw [List.getElem?_set_ne elsewhere] at at_
    exact sound.pending j other at_ fun member => unfinished (List.mem_append_left _ member)

/-- A step that does not finish its request changes nothing of what there is to record. -/
theorem Sound.proceed {s : System} (sound : Sound r qs s) {i : Nat} {p : Progress} (found : s.requests[i]? = some p)
    (kept : p.finishes = false) : Sound r qs ⟨s.registry,s.requests.set i (p.next s.registry),s.finished⟩ := by
  obtain ⟨inside,_⟩ := List.getElem?_eq_some_iff.mp found
  refine ⟨sound.keys,sound.serial,sound.distinct,?_,?_,fun j q at_ => sound.documented_set p at_⟩
  · intro j member
    obtain ⟨ended,finishable⟩ := sound.recorded j member
    refine ⟨?_,finishable⟩
    by_cases same : i = j
    · subst same
      rw [ended] at found
      cases found
      exact List.getElem?_set_self inside
    · exact (List.getElem?_set_ne same).trans ended
  · intro j other at_ unfinished
    by_cases same : i = j
    · subst same
      obtain ⟨q,known,settled⟩ := sound.pending i p found unfinished
      rw [List.getElem?_set_self inside] at at_
      cases at_
      refine ⟨q,known,(Progress.toRecord?_next ?_ kept).trans settled⟩
      rintro q rfl
      exact isDocumented_of_keys sound.keys (sound.documented i q found)
    · rw [List.getElem?_set_ne same] at at_
      exact sound.pending j other at_ unfinished

/-- One step of one request keeps the registry that of the requests that finished. -/
theorem Sound.step {s : System} (sound : Sound r qs s) (i : Nat) : Sound r qs (s.step i) := by
  unfold System.step
  cases found : s.requests[i]? with
  | none => exact sound
  | some p =>
    cases finishing : p.finishes with
    | true =>
      simp only [finishing,↓reduceIte]
      exact sound.finish found finishing
    | false =>
      simp only [finishing,Bool.false_eq_true,↓reduceIte,Progress.write_of_not_finishes finishing s.registry]
      exact sound.proceed found finishing

theorem Sound.run {s : System} (sound : Sound r qs s) (schedule : List Nat) : Sound r qs (s.run schedule) := by
  induction schedule generalizing s with
  | nil => exact sound
  | cons i rest ih => exact ih (sound.step i)

/-- A request comes nearer to its end whenever it is its turn. -/
theorem remaining_run {s : System} {i : Nat} {p : Progress} (found : s.requests[i]? = some p) (schedule : List Nat) :
    ∃ last, (s.run schedule).requests[i]? = some last ∧ last.remaining ≤ p.remaining - schedule.count i := by
  induction schedule generalizing s p with
  | nil => exact ⟨p,found,Nat.le_refl _⟩
  | cons j rest ih =>
    by_cases turn : j = i
    · subst turn
      have inside : j < s.requests.length := (List.getElem?_eq_some_iff.mp found).1
      have stepped : (s.step j).requests[j]? = some (p.next s.registry) := by
        rw [step,found]
        simp [inside]
      obtain ⟨last,reached,fewer⟩ := ih stepped
      have nearer := p.remaining_next s.registry
      refine ⟨last,reached,?_⟩
      rw [List.count_cons_self]
      omega
    · have stepped : (s.step j).requests[i]? = some p := by
        unfold step
        split
        · exact found
        · exact (List.getElem?_set_ne turn).trans found
      obtain ⟨last,reached,fewer⟩ := ih stepped
      refine ⟨last,reached,?_⟩
      rw [List.count_cons_of_ne turn]
      exact fewer

end System

/-- The registry and the requests after steps in the order of a schedule, from their beginnings. -/
def interleaved (r : Registry) (qs : List Request) (schedule : List Nat) : System := (System.start r qs).run schedule

/-- However requests are interleaved, the registry in the end is the one after those that finished, one after another in
    the order in which they did. Each of them was recorded once, under its own key, and what was recorded is the sample of
    its own exchange; the others leave nothing, and neither does a document that there is no room for, as there is for two
    hundred levels. A request that comes to its end finishes when it is its turn often enough. -/
theorem run_serial (r : Registry) (qs : List Request) (documented : ∀ q ∈ qs, q.IsDocumented r)
    (conforms : ∀ q ∈ qs, q.attempt.Conforms) (schedule : List Nat) :
    (interleaved r qs schedule).finished.Nodup ∧
    (∀ i ∈ (interleaved r qs schedule).finished, ∃ q x, qs[i]? = some q ∧ q.attempt.exchange? = some x ∧
      x.key ∈ r.keys) ∧
    (interleaved r qs schedule).registry =
      Capture.run r ((picked qs (interleaved r qs schedule).finished).map Request.action) ∧
    (∀ key ∈ r.keys, (interleaved r qs schedule).registry.samples key =
      r.samples key ++
        (picked qs (interleaved r qs schedule).finished).filterMap fun q => q.action.sample? key) ∧
    (∀ (q : Request) x v, q.attempt.exchange? = some x → x.body ≠ [] →
      loaded? (.foreign (.bytes x.body)) = some v →
      (v.objects ≤ maxObjects → ∃ shape, redact v = .ok shape ∧
        ∀ key, q.action.sample? key = if x.key = key then some ⟨shape,x.status⟩ else none) ∧
      (maxObjects < v.objects → ∀ key, q.action.sample? key = none) ∧ (v.nesting ≤ 200 → v.objects ≤ maxObjects)) ∧
    (∀ (i : Nat) q, qs[i]? = some q → q.attempt.exchange?.isSome = true →
      (Progress.begun q).remaining ≤ schedule.count i → i ∈ (interleaved r qs schedule).finished) := by
  have sound : System.Sound r qs (interleaved r qs schedule) := (System.sound_start documented).run schedule
  have exchanged : ∀ (i : Nat) q, qs[i]? = some q →
      (Progress.begun q).toRecord?.isSome = q.attempt.exchange?.isSome := by
    intro i q known
    rw [Request.toRecord?_of_conforms (conforms q (List.mem_of_getElem? known)),Option.isSome_map]
  refine ⟨sound.distinct,?_,sound.serial,?_,?_,?_⟩
  · intro i member
    obtain ⟨_,q,known,records⟩ := sound.recorded i member
    obtain ⟨x,found⟩ := Option.isSome_iff_exists.mp (exchanged i q known ▸ records)
    exact ⟨q,x,known,found,Request.key_mem_of_documented (documented q (List.mem_of_getElem? known)) found⟩
  · intro key present
    have conform : ∀ a ∈ (picked qs (interleaved r qs schedule).finished).map Request.action, a.Conforms := by
      intro a member
      obtain ⟨q,chosen,rfl⟩ := List.mem_map.mp member
      obtain ⟨i,_,known⟩ := List.mem_filterMap.mp chosen
      exact conforms q (List.mem_of_getElem? known)
    have sampling : Log.endpoints (written ((picked qs (interleaved r qs schedule).finished).map Request.action)) =
        [] := by
      rw [endpoints_written,List.flatMap_map]
      exact List.flatMap_eq_nil_iff.mpr fun _ _ => rfl
    rw [sound.serial,run_eq,samples_replay_of_endpoints r sampling present,filterMap_written conform,List.filterMap_map]
    rfl
  · intro q x v found full said
    have own (key : Text) : q.action.sample? key = if x.key = key then x.sample? else none := by
      show (q.attempt.exchange?.bind fun x => if x.key = key then x.sample? else none) = _
      rw [found,Option.bind_some]
    refine ⟨fun fits => ?_,fun deep key => ?_,objects_le_of_nesting⟩
    · obtain ⟨shape,redacted,sample⟩ := sample?_of_loaded full said fits
      exact ⟨shape,redacted,fun key => by rw [own,sample]⟩
    · rw [own,sample?_eq_none (.inr (.inr ⟨v,said,deep⟩)),ite_self]
  · intro i q known records enough
    by_contra unfinished
    have begun : (System.start r qs).requests[i]? = some (.begun q) := by
      simp [System.start,known]
    obtain ⟨last,reached,fewer⟩ := System.remaining_run begun schedule
    obtain ⟨own,same,settled⟩ := sound.pending i last reached unfinished
    obtain rfl := Option.some.inj (known.symm.trans same)
    have ended : last.remaining = 0 := by omega
    rw [Progress.toRecord?_of_remaining ended] at settled
    rw [← exchanged i q known,← settled] at records
    cases records

private def page : Value := .obj [("type",.str "http"),("method",.str "GET"),("path",.str "/page")]

private def starts : Value := .obj [("type",Asgi.startKind),("status",.int 201)]

private def brings (body : Bytes) : Value := .obj [("type",Asgi.bodyKind),("body",.foreign (.bytes body))]

/-- Two requests for one page that say an empty list and an empty object, and one that fails. -/
private def inFlight : List Request :=
  [.asgi page [.send starts,.send (brings [0x5B]),.send (brings [0x5D])],
    .wsgi { pathInfo := some "/page" } ⟨[.start (.str "404 Not Found") (.arr []) none],
      [.chunk (.foreign (.bytes [0x7B])),.chunk (.foreign (.bytes [0x7D]))],true⟩ none,
    .asgi page [.send (brings [0x5B,0x5D]),.fail "down"]]

/-- The second request finishes while the first one is still sent, and the third one fails in between. -/
private def order : List Nat := [0,1,2,1,0,1,2,0,1,1,2,1,1,1,1,2,0,0]

private def oneKey : Registry := .ofList [{ method := "GET", path := "/page" }]

theorem run_serial_inFlight :
    (∀ q ∈ inFlight, q.IsDocumented oneKey) ∧ (∀ q ∈ inFlight, q.attempt.Conforms) ∧
    (interleaved oneKey inFlight order).finished = [1,0] ∧
    (interleaved oneKey inFlight order).registry.samples (endpointKey "GET" "/page") =
      [⟨.obj [],404⟩,⟨.arr [],201⟩] := by
  have documented : ∀ q ∈ inFlight, q.IsDocumented oneKey := by
    have known : oneKey.isDocumented "GET" "/page" = true := by decide
    simp only [inFlight,List.forall_mem_cons]
    exact ⟨⟨_,_,rfl,known⟩,known,⟨_,_,rfl,known⟩,by simp⟩
  have started : Asgi.Conforms starts := Asgi.conforms_start rfl rfl
  have brought (body : Bytes) : Asgi.Conforms (brings body) := Asgi.conforms_body rfl rfl
  have line : statusOfLine (.str "404 Not Found") = .ok 404 := rfl
  have conforms : ∀ q ∈ inFlight, q.attempt.Conforms := by
    simp only [inFlight,List.forall_mem_cons,Request.attempt]
    refine ⟨?_,?_,?_,by simp⟩
    · simp [Attempt.Conforms,Asgi.sends,started,brought]
    · simp [Attempt.Conforms,Wsgi.App.steps,Wsgi.Item.Conforms,line]
    · simp [Attempt.Conforms,Asgi.sends,brought]
  have finished : (interleaved oneKey inFlight order).finished = [1,0] := rfl
  obtain ⟨_,_,_,samples,_⟩ := run_serial oneKey inFlight documented conforms order
  refine ⟨documented,conforms,finished,(samples _ (by decide)).trans ?_⟩
  rw [finished]
  rfl

/-! A request whose body says a document of six hundred objects, one inside the other, finishes and leaves no sample. -/

private def inOneMessage (body : Bytes) : Request := .asgi page [.send starts,.send (brings body)]

theorem exchange?_inOneMessage (body : Bytes) :
    (inOneMessage body).attempt.exchange? = some ⟨"GET","/page",201,body⟩ := by
  have requested : Asgi.request? page = some (("GET" : Text),("/page" : Text)) := rfl
  have parts : List.filterMap Asgi.part? [starts,brings body] = [.status 201,.data body] := rfl
  have last : lastStatus [.status 201,.data body] = 201 := rfl
  have octets : joined [.status 201,.data body] = body := by simp [joined,Part.octets]
  simp [inOneMessage,Request.attempt,Attempt.exchange?,Asgi.exchange?,Asgi.fails,Asgi.ownFault?,Asgi.sends,requested,parts,
    last,octets]

theorem interleaved_inOneMessage (body : Bytes) (lost : Exchange.sample? ⟨"GET","/page",201,body⟩ = none) :
    (interleaved oneKey [inOneMessage body] [0,0,0,0]).finished = [0] ∧
    (interleaved oneKey [inOneMessage body] [0,0,0,0]).registry = oneKey := by
  refine ⟨rfl,?_⟩
  have recorded : (interleaved oneKey [inOneMessage body] [0,0,0,0]).registry =
      (Draft.finish ⟨201,some body⟩ (.asgiFailed "GET" "/page") "GET" "/page" oneKey).1 := rfl
  have own : Draft.sample? ⟨201,some body⟩ = none := (sampleOf?_eq ⟨"GET","/page",201,body⟩).trans lost
  rw [recorded,finish_registry,own]
  rfl

theorem run_serial_deep :
    (inOneMessage deepBody).IsDocumented oneKey ∧ (inOneMessage deepBody).attempt.Conforms ∧
    (inOneMessage deepBody).attempt.exchange? = some ⟨"GET","/page",201,deepBody⟩ ∧
    deepBody ≠ [] ∧ (∃ v, loaded? (.foreign (.bytes deepBody)) = some v) ∧
    (interleaved oneKey [inOneMessage deepBody] [0,0,0,0]).finished = [0] ∧
    (interleaved oneKey [inOneMessage deepBody] [0,0,0,0]).registry.samples (endpointKey "GET" "/page") = [] := by
  have documented : (inOneMessage deepBody).IsDocumented oneKey := ⟨_,_,rfl,by decide⟩
  have started : Asgi.Conforms starts := Asgi.conforms_start rfl rfl
  have brought : Asgi.Conforms (brings deepBody) := Asgi.conforms_body rfl rfl
  have conforms : (inOneMessage deepBody).attempt.Conforms := by
    simp [inOneMessage,Request.attempt,Attempt.Conforms,Asgi.sends,started,brought]
  have lost := sample?_eq_none (x := ⟨"GET","/page",201,deepBody⟩) (.inr (.inr loaded_deepBody))
  obtain ⟨finished,kept⟩ := interleaved_inOneMessage deepBody lost
  refine ⟨documented,conforms,exchange?_inOneMessage deepBody,deepBody_ne_nil,loaded_deepBody.imp fun _ => And.left,
    finished,?_⟩
  rw [kept]
  rfl

end ApiDocs.Capture
