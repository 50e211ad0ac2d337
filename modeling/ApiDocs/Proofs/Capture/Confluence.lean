import ApiDocs.Proofs.Capture.Attempt
import ApiDocs.Proofs.Registry.Reload

/-!
Samples may be collected while endpoints are registered again. In whatever order the two are interleaved, the registry
in the end is the one in which all endpoints were registered first (`proceed_confluent`), and when the endpoints are
those that were loaded before, the one in which none was registered again.
-/
namespace ApiDocs.Capture

open Registry

/-- A sample is handed in under a key, or a response is to be recorded. -/
inductive Sampling where
  | append (key : Text) (sample : Response)
  | attempt (a : Attempt)

/-- The registry after a sampling. -/
def Sampling.apply (r : Registry) : Sampling → Registry
  | append key sample => (r.append? key sample).getD r
  | attempt a => a.apply r

/-- What a sampling writes. -/
def Sampling.entries : Sampling → List Entry
  | append key sample => [.sampled key sample]
  | attempt a => a.entries

theorem Sampling.apply_eq (r : Registry) (s : Sampling) : s.apply r = r.replay s.entries := by
  cases s with
  | append key sample => rfl
  | attempt a => exact a.apply_eq r

theorem Sampling.endpoints_entries (s : Sampling) : Log.endpoints s.entries = [] := by
  cases s with
  | append key sample => rfl
  | attempt a => exact a.endpoints_entries

/-- The registry after samplings in order. -/
def collect (r : Registry) (samplings : List Sampling) : Registry := samplings.foldl Sampling.apply r

/-- A sampling, or a registration of one endpoint or of several. -/
inductive Step where
  | sampling (s : Sampling)
  | upsert (e : Endpoint)
  | load (es : List Endpoint)

/-- The registry after a step. -/
def Step.apply (r : Registry) : Step → Registry
  | sampling s => s.apply r
  | upsert e => r.upsert e
  | load es => r.load es

/-- The sampling that a step is. -/
def Step.sampling? : Step → Option Sampling
  | sampling s => some s
  | _ => none

/-- The registry after steps in order. -/
def proceed (r : Registry) (steps : List Step) : Registry := steps.foldl Step.apply r

/-- Samplings and endpoints in one order, each kept in their own. -/
inductive Interleaving : List Sampling → List Endpoint → List Step → Prop where
  | nil : Interleaving [] [] []
  | sampling {samplings es steps} (s : Sampling) (rest : Interleaving samplings es steps) :
      Interleaving (s :: samplings) es (.sampling s :: steps)
  | upsert {samplings es steps} (e : Endpoint) (rest : Interleaving samplings es steps) :
      Interleaving samplings (e :: es) (.upsert e :: steps)

/-- Endpoints of registered keys may be loaded before or after a response is recorded. -/
theorem load_sampling_comm {r : Registry} {es : List Endpoint} (plain : ∀ e ∈ es, e.responses = [])
    (registered : ∀ e ∈ es, e.key ∈ r.keys) (s : Sampling) : (s.apply r).load es = s.apply (r.load es) := by
  rw [s.apply_eq,s.apply_eq]
  exact load_replay_comm plain registered s.endpoints_entries

/-- However samplings and endpoints of registered keys are interleaved, the endpoints might as well come first. -/
theorem proceed_eq {samplings : List Sampling} {es : List Endpoint} {order : List Step}
    (interleaving : Interleaving samplings es order) {r : Registry} (plain : ∀ e ∈ es, e.responses = [])
    (registered : ∀ e ∈ es, e.key ∈ r.keys) : proceed r order = collect (r.load es) samplings := by
  induction interleaving generalizing r with
  | nil => rfl
  | @sampling samplings es order s rest ih =>
    have later : ∀ e ∈ es, e.key ∈ (s.apply r).keys := fun e member => by
      rw [s.apply_eq,r.keys_replay_of_endpoints s.endpoints_entries]
      exact registered e member
    show proceed (s.apply r) order = collect (s.apply (r.load es)) samplings
    rw [ih plain later,load_sampling_comm plain registered]
  | @upsert samplings es order e rest ih =>
    have later : ∀ f ∈ es, f.key ∈ (r.upsert e).keys := fun f member =>
      (mem_keys_upsert r e f.key).mpr (.inl (registered f (List.mem_cons_of_mem e member)))
    exact ih (fun f member => plain f (List.mem_cons_of_mem e member)) later

/-- Loading endpoints again changes nothing in a registry that they were loaded into, whatever is collected in it. -/
theorem proceed_reloading {r : Registry} {es : List Endpoint} (plain : ∀ e ∈ es, e.responses = [])
    (registered : ∀ e ∈ es, e.key ∈ r.keys) (kept : r.load es = r) {steps : List Step}
    (reloading : ∀ step ∈ steps, step = .load es ∨ ∃ s, step = .sampling s) :
    proceed r steps = collect r (steps.filterMap Step.sampling?) := by
  induction steps generalizing r with
  | nil => rfl
  | cons step rest ih =>
    have later : ∀ other ∈ rest, other = .load es ∨ ∃ s, other = .sampling s := fun other member =>
      reloading other (List.mem_cons_of_mem step member)
    rcases reloading step List.mem_cons_self with rfl | ⟨s,rfl⟩
    · show proceed (r.load es) rest = collect r (rest.filterMap Step.sampling?)
      rw [kept]
      exact ih registered kept later
    · have keeps : ∀ e ∈ es, e.key ∈ (s.apply r).keys := fun e member => by
        rw [s.apply_eq,r.keys_replay_of_endpoints s.endpoints_entries]
        exact registered e member
      have stays : (s.apply r).load es = s.apply r := by
        rw [load_sampling_comm plain registered,kept]
      exact ih keeps stays later

/-- Samplings and endpoints of registered keys that bring no samples lead to one registry in every order in which each
    are kept in their own. And in a registry into which endpoints were loaded, even several under one key, loading
    them again at any points leads to the same registry as the samplings alone. -/
theorem proceed_confluent (r : Registry) (es : List Endpoint) (plain : ∀ e ∈ es, e.responses = []) :
    ((∀ e ∈ es, e.key ∈ r.keys) → ∀ samplings first second,
      Interleaving samplings es first → Interleaving samplings es second → proceed r first = proceed r second) ∧
    ∀ steps : List Step, (∀ step ∈ steps, step = .load es ∨ ∃ s, step = .sampling s) →
      proceed (r.load es) steps = collect (r.load es) (steps.filterMap Step.sampling?) := by
  constructor
  · intro registered samplings first second one other
    rw [proceed_eq one plain registered,proceed_eq other plain registered]
  · intro steps reloading
    have registered : ∀ e ∈ es, e.key ∈ (r.load es).keys := fun e member =>
      (mem_keys_load r es e.key).mpr (.inr ⟨e,member,rfl⟩)
    exact proceed_reloading plain registered (load_idempotent r plain) reloading

/-- Two endpoints of one key with one of another between them. -/
private def doubled : List Endpoint :=
  [{ method := "GET", path := "/a", description := "old" },{ method := "POST", path := "/b" },
    { method := "GET", path := "/a", description := "new" }]

private def appended : Sampling := .append (endpointKey "GET" "/a") ⟨.str [],200⟩

private def called : Sampling := .attempt (.call "POST" "/b" (.int 201) (.foreign (.bytes [0x5B,0x5D])))

theorem proceed_confluent_doubled :
    (∀ e ∈ doubled, e.responses = []) ∧ (∀ e ∈ doubled, e.key ∈ (empty.load doubled).keys) ∧
    proceed (empty.load doubled) (.sampling appended :: doubled.map .upsert ++ [.sampling called]) =
      proceed (empty.load doubled) (doubled.map .upsert ++ [.sampling appended,.sampling called]) ∧
    proceed (empty.load doubled) [.sampling appended,.load doubled,.sampling called,.load doubled] =
      collect (empty.load doubled) [appended,called] := by
  have plain : ∀ e ∈ doubled, e.responses = [] := by simp [doubled]
  have registered : ∀ e ∈ doubled, e.key ∈ (empty.load doubled).keys := by decide
  obtain ⟨orders,_⟩ := proceed_confluent (empty.load doubled) doubled plain
  obtain ⟨_,reloads⟩ := proceed_confluent empty doubled plain
  refine ⟨plain,registered,orders registered [appended,called] _ _ ?_ ?_,reloads _ ?_⟩
  · exact .sampling _ (.upsert _ (.upsert _ (.upsert _ (.sampling _ .nil))))
  · exact .upsert _ (.upsert _ (.upsert _ (.sampling _ (.sampling _ .nil))))
  · simp

end ApiDocs.Capture
