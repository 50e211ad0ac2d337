import ApiDocs.Proofs.Registry.Entries

/-!
A registry is what its history says. The history is a log that only grows: endpoints that were
registered and samples that were handed in. From the log alone follow the keys, in the order of their
first endpoints, the documentation of each key, that of its last endpoint, and the samples of each key,
those of its first endpoint and every later one (`replay_refines`).
-/
namespace ApiDocs.Registry

/-- What is written into a registry: an endpoint, or a sample under a key. -/
inductive Entry where
  | registered (e : Endpoint)
  | sampled (key : Text) (sample : Response)

/-- The registry with an entry written into it. -/
def write (r : Registry) : Entry → Registry
  | .registered e => r.upsert e
  | .sampled key sample => r.offer key sample

/-- The registry with the entries of a log written into it in order. -/
def replay (r : Registry) (log : List Entry) : Registry := log.foldl write r

theorem replay_append (r : Registry) (log more : List Entry) : r.replay (log ++ more) = (r.replay log).replay more :=
  List.foldl_append

theorem nodup_replay {r : Registry} (distinct : r.keys.Nodup) (log : List Entry) : (r.replay log).keys.Nodup := by
  induction log generalizing r with
  | nil => exact distinct
  | cons entry rest ih =>
    refine ih ?_
    cases entry with
    | registered e => exact nodup_upsert distinct e
    | sampled key sample => exact (keys_offer r key sample).symm ▸ distinct

/-- Steps that write what they stand for leave the registry of all that they write, in order. -/
theorem foldl_eq_replay {α : Type} {apply : Registry → α → Registry} {entries : α → List Entry}
    (each : ∀ r a, apply r a = r.replay (entries a)) (r : Registry) (as : List α) :
    as.foldl apply r = r.replay (as.flatMap entries) := by
  induction as generalizing r with
  | nil => rfl
  | cons a rest ih => rw [List.foldl_cons,ih,each,List.flatMap_cons,replay_append]

theorem replay_registered (r : Registry) (es : List Endpoint) : r.replay (es.map .registered) = r.load es := by
  unfold replay load
  rw [List.foldl_map]
  rfl

/-- The endpoint that an entry registers. -/
def Entry.endpoint? : Entry → Option Endpoint
  | .registered e => some e
  | .sampled .. => none

/-- The sample that an entry hands in under a key. -/
def Entry.sample? (key : Text) : Entry → Option Response
  | .registered _ => none
  | .sampled name sample => if name = key then some sample else none

namespace Log

/-- The registered endpoints in order. -/
def endpoints (log : List Entry) : List Endpoint := log.filterMap Entry.endpoint?

/-- The registered keys in the order of their first endpoints. -/
def keys (log : List Entry) : List Text := ((endpoints log).map Endpoint.key).eraseDups

/-- The endpoint that was registered last under a key. -/
def last? (key : Text) (log : List Entry) : Option Endpoint := ((endpoints log).filter (·.key = key)).getLast?

/-- The samples that the first endpoint of a key brought with it, and those that were handed in under the
    key since then. -/
def samples (key : Text) : List Entry → List Response
  | [] => []
  | .registered e :: rest =>
    if e.key = key then e.responses ++ rest.filterMap (Entry.sample? key) else samples key rest
  | .sampled .. :: rest => samples key rest

/-- What is kept under a key: the documentation of its last endpoint, and all its samples. -/
def stored? (key : Text) (log : List Entry) : Option Endpoint :=
  (last? key log).map fun e => { e with responses := samples key log }

/-- Only the first endpoint of a key may bring samples with it. -/
def Plain (log : List Entry) : Prop := (endpoints log).Pairwise fun e f => f.key = e.key → f.responses = []

@[simp] theorem endpoints_append (log more : List Entry) : endpoints (log ++ more) = endpoints log ++ endpoints more :=
  List.filterMap_append

@[simp] theorem endpoints_registered (e : Endpoint) : endpoints [.registered e] = [e] := rfl

@[simp] theorem endpoints_map_registered (es : List Endpoint) : endpoints (es.map .registered) = es := by
  simp [endpoints,List.filterMap_map,Function.comp_def,Entry.endpoint?]

@[simp] theorem endpoints_sampled (key : Text) (sample : Response) : endpoints [.sampled key sample] = [] := rfl

theorem mem_keys (key : Text) (log : List Entry) : key ∈ keys log ↔ ∃ e ∈ endpoints log, e.key = key := by
  simp [keys]

theorem eraseDups_append_singleton (ks : List Text) (key : Text) :
    (ks ++ [key]).eraseDups = if key ∈ ks then ks.eraseDups else ks.eraseDups ++ [key] := by
  rw [List.eraseDups_append]
  by_cases old : key ∈ ks <;> simp [old,List.removeAll,List.eraseDups_cons]

theorem keys_registered (log : List Entry) (e : Endpoint) :
    keys (log ++ [.registered e]) = if e.key ∈ keys log then keys log else keys log ++ [e.key] := by
  simp only [keys,endpoints_append,endpoints_registered,List.map_append,List.map_cons,List.map_nil,
    eraseDups_append_singleton,List.mem_eraseDups]

theorem keys_sampled (log : List Entry) (key : Text) (sample : Response) :
    keys (log ++ [.sampled key sample]) = keys log := by
  simp [keys]

theorem last?_registered (key : Text) (log : List Entry) (e : Endpoint) :
    last? key (log ++ [.registered e]) = if e.key = key then some e else last? key log := by
  by_cases own : e.key = key <;> simp [last?,own]

theorem last?_sampled (key : Text) (log : List Entry) (name : Text) (sample : Response) :
    last? key (log ++ [.sampled name sample]) = last? key log := by
  simp [last?]

theorem last?_key {key : Text} {log : List Entry} {e : Endpoint} (found : last? key log = some e) : e.key = key := by
  have member := List.mem_of_getLast? found
  simpa using (List.mem_filter.mp member).2

theorem last?_eq_none (key : Text) (log : List Entry) : last? key log = none ↔ key ∉ keys log := by
  rw [mem_keys]
  simp [last?]

theorem mem_keys_of_last? {key : Text} {log : List Entry} {e : Endpoint} (found : last? key log = some e) :
    key ∈ keys log := by
  have member := List.mem_of_getLast? found
  exact (mem_keys key log).mpr ⟨e,(List.mem_filter.mp member).1,last?_key found⟩

/-- What stands in front of the first endpoint of a key is of no account for its samples. -/
theorem samples_append_absent {key : Text} {log : List Entry} (absent : key ∉ keys log) (more : List Entry) :
    samples key (log ++ more) = samples key more := by
  have others : ∀ e ∈ endpoints log, e.key ≠ key := fun e member own => absent ((mem_keys key log).mpr ⟨e,member,own⟩)
  clear absent
  induction log with
  | nil => rfl
  | cons entry rest ih =>
    cases entry with
    | registered e =>
      have other : e.key ≠ key := others e List.mem_cons_self
      simp only [List.cons_append,samples,other,↓reduceIte]
      exact ih (fun f member => others f (List.mem_cons_of_mem e member))
    | sampled name sample => exact ih others

/-- A key without endpoints has no samples. -/
theorem samples_absent {key : Text} {log : List Entry} (absent : key ∉ keys log) : samples key log = [] := by
  have before := samples_append_absent absent []
  rwa [List.append_nil] at before

/-- More entries of a log that has a key hand in their samples. -/
theorem samples_append {key : Text} {log : List Entry} (present : key ∈ keys log) (more : List Entry) :
    samples key (log ++ more) = samples key log ++ more.filterMap (Entry.sample? key) := by
  obtain ⟨e,member,own⟩ := (mem_keys key log).mp present
  clear present
  induction log with
  | nil => exact absurd member List.not_mem_nil
  | cons entry rest ih =>
    cases entry with
    | registered f =>
      by_cases here : f.key = key
      · simp [samples,here]
      · have later : e ∈ endpoints rest := by
          have either : e = f ∨ e ∈ endpoints rest := List.mem_cons.mp member
          rcases either with rfl | later
          · exact absurd own here
          · exact later
        simpa [samples,here] using ih later
    | sampled name sample => exact ih member

/-- Endpoints that bring no samples have none, as long as none are handed in. -/
theorem samples_map_registered {es : List Endpoint} (plain : ∀ e ∈ es, e.responses = []) (key : Text) :
    samples key (es.map .registered) = [] := by
  induction es with
  | nil => rfl
  | cons e rest ih =>
    have later := ih (fun f member => plain f (List.mem_cons_of_mem e member))
    by_cases own : e.key = key
    · simp [samples,own,plain e List.mem_cons_self,List.filterMap_map,Function.comp_def,Entry.sample?]
    · simpa [samples,own] using later

theorem samples_registered (key : Text) (log : List Entry) (e : Endpoint) :
    samples key (log ++ [.registered e]) =
      samples key log ++ (if e.key = key ∧ key ∉ keys log then e.responses else []) := by
  by_cases present : key ∈ keys log
  · simp [samples_append present,present,Entry.sample?]
  · simp [samples_append_absent present,samples_absent present,present,samples]

theorem samples_sampled (key : Text) (log : List Entry) (name : Text) (sample : Response) :
    samples key (log ++ [.sampled name sample]) =
      samples key log ++ (if name = key ∧ key ∈ keys log then [sample] else []) := by
  by_cases present : key ∈ keys log
  · by_cases own : name = key <;> simp [samples_append present,present,Entry.sample?,own]
  · simp [samples_append_absent present,samples_absent present,present,samples]

end Log

/-! ### The registry of a log -/

/-- A registry holds what a log says: its keys in order, and under each of them what is kept there. -/
structure Refines (log : List Entry) (r : Registry) : Prop where
  keys : r.keys = Log.keys log
  endpoint : ∀ key, r.get? key = Log.stored? key log

theorem refines_empty : Refines [] empty := ⟨rfl,fun _ => rfl⟩

theorem Refines.mem_keys {log : List Entry} {r : Registry} (refines : Refines log r) (key : Text) :
    key ∈ r.keys ↔ key ∈ Log.keys log := by
  rw [refines.keys]

/-- The samples that are kept are those of the log, also under a key that is not registered: none. -/
theorem Refines.samples {log : List Entry} {r : Registry} (refines : Refines log r) (key : Text) :
    r.samples key = Log.samples key log := by
  unfold Registry.samples
  rw [refines.endpoint,Log.stored?]
  cases found : Log.last? key log with
  | none =>
    exact (Log.samples_absent ((Log.last?_eq_none key log).mp found)).symm
  | some e => rfl

/-- An endpoint that brings samples only under a new key is registered as the log says. -/
theorem Refines.registered {log : List Entry} {r : Registry} (refines : Refines log r) (e : Endpoint)
    (plain : e.key ∈ Log.keys log → e.responses = []) : Refines (log ++ [.registered e]) (r.upsert e) := by
  refine ⟨?_,?_⟩
  · rw [keys_upsert,Log.keys_registered,refines.keys]
  · intro key
    rw [get?_upsert,Log.stored?,Log.last?_registered,Log.samples_registered,refines.samples]
    by_cases own : e.key = key
    · subst own
      by_cases old : e.key ∈ Log.keys log
      · simp [old,plain old]
      · simp [old]
    · simp [own,refines.endpoint,Log.stored?]

/-- A sample is handed in as the log says, whether its key is registered or not. -/
theorem Refines.sampled {log : List Entry} {r : Registry} (refines : Refines log r) (key : Text) (sample : Response) :
    Refines (log ++ [.sampled key sample]) (r.offer key sample) := by
  refine ⟨?_,?_⟩
  · rw [keys_offer,Log.keys_sampled,refines.keys]
  · intro other
    rw [get?_offer,Log.stored?,Log.last?_sampled,Log.samples_sampled,refines.endpoint,Log.stored?]
    by_cases own : key = other
    · subst own
      cases found : Log.last? key log with
      | none => simp
      | some e =>
        have present := Log.mem_keys_of_last? found
        simp [present]
    · simp [own]

/-- What a log says after its beginning is what the registry holds after the beginning was replayed. -/
theorem Refines.replay {log : List Entry} {r : Registry} (refines : Refines log r) (more : List Entry)
    (plain : Log.Plain (log ++ more)) : Refines (log ++ more) (r.replay more) := by
  induction more generalizing log r with
  | nil => rw [List.append_nil]; exact refines
  | cons entry rest ih =>
    have split : log ++ entry :: rest = (log ++ [entry]) ++ rest := by simp
    rw [split] at plain ⊢
    refine ih ?_ plain
    cases entry with
    | registered e =>
      refine refines.registered e (fun old => ?_)
      obtain ⟨f,member,own⟩ := (Log.mem_keys e.key log).mp old
      simp only [Log.Plain,Log.endpoints_append,Log.endpoints_registered,List.pairwise_append] at plain
      exact plain.1.2.2 f member e List.mem_cons_self own.symm
    | sampled key sample => exact refines.sampled key sample

/-- From an empty registry, a log in which only the first endpoint of a key brings samples leads to the registry
    that the log says. -/
theorem replay_refines (log : List Entry) (plain : Log.Plain log) : Refines log (empty.replay log) :=
  refines_empty.replay log plain

/-- Samples leave the keys as they are. -/
theorem keys_replay_of_endpoints {log : List Entry} (r : Registry) (sampling : Log.endpoints log = []) :
    (r.replay log).keys = r.keys := by
  induction log generalizing r with
  | nil => rfl
  | cons entry rest ih =>
    cases entry with
    | registered e => cases sampling
    | sampled key sample => exact (ih (r.offer key sample) sampling).trans (keys_offer r key sample)

/-- Samples leave what is documented as it is. -/
theorem documentation_replay_of_endpoints {log : List Entry} (r : Registry) (sampling : Log.endpoints log = [])
    (key : Text) : ((r.replay log).get? key).map Endpoint.documentation = (r.get? key).map Endpoint.documentation := by
  induction log generalizing r with
  | nil => rfl
  | cons entry rest ih =>
    cases entry with
    | registered e => cases sampling
    | sampled name sample =>
      refine (ih (r.offer name sample) sampling).trans ?_
      rw [get?_offer]
      by_cases own : name = key
      · cases r.get? key <;> simp [own,Endpoint.documentation]
      · simp [own]

/-- Under a registered key, samples stand behind those that were kept before. -/
theorem samples_replay_of_endpoints {log : List Entry} (r : Registry) (sampling : Log.endpoints log = []) {key : Text}
    (present : key ∈ r.keys) : (r.replay log).samples key = r.samples key ++ log.filterMap (Entry.sample? key) := by
  induction log generalizing r with
  | nil => exact (List.append_nil _).symm
  | cons entry rest ih =>
    cases entry with
    | registered e => cases sampling
    | sampled name sample =>
      refine (ih (r.offer name sample) sampling ((keys_offer r name sample).symm ▸ present)).trans ?_
      by_cases own : name = key
      · subst own
        simp [samples_offer present,Entry.sample?]
      · have kept : (r.offer name sample).samples key = r.samples key := by
          simp [samples,get?_offer,own]
        simp [kept,Entry.sample?,own]

/-- A stored endpoint stands under the key of its own method and path. -/
theorem Refines.key {log : List Entry} {r : Registry} (refines : Refines log r) {key : Text} {e : Endpoint}
    (found : r.get? key = some e) : e.key = key := by
  rw [refines.endpoint,Log.stored?,Option.map_eq_some_iff] at found
  obtain ⟨last,lastFound,rfl⟩ := found
  exact (Log.last?_key lastFound : last.key = key)

/-! ### Operations -/

/-- What a program does with a registry: it loads or registers endpoints, hands in a sample, or reads. -/
inductive Operation where
  | load (es : List Endpoint)
  | upsert (e : Endpoint)
  | append (key : Text) (sample : Response)
  | read

/-- The registry after an operation. -/
def Operation.apply (r : Registry) : Operation → Registry
  | .load es => r.load es
  | .upsert e => r.upsert e
  | .append key sample => (r.append? key sample).getD r
  | .read => r

/-- The registry after operations in order. -/
def perform (r : Registry) (ops : List Operation) : Registry := ops.foldl Operation.apply r

/-- What an operation writes. -/
def Operation.entries : Operation → List Entry
  | .load es => es.map .registered
  | .upsert e => [.registered e]
  | .append key sample => [.sampled key sample]
  | .read => []

/-- What operations write, in order. -/
def history (ops : List Operation) : List Entry := ops.flatMap Operation.entries

theorem Operation.apply_eq (r : Registry) (op : Operation) : op.apply r = r.replay op.entries := by
  cases op with
  | load es => exact (replay_registered r es).symm
  | upsert e => rfl
  | append key sample => rfl
  | read => rfl

theorem perform_eq (r : Registry) (ops : List Operation) : r.perform ops = r.replay (history ops) :=
  foldl_eq_replay Operation.apply_eq r ops

/-- After any operations a registry is exactly what their history says. A key is present when an endpoint was
    registered under it, and the keys stand in the order of their first endpoints. Under a key stands the
    documentation of its last endpoint, which has that key, with the samples of the first endpoint and every
    sample handed in since then. A sample is taken exactly when its key is present, and else changes nothing. -/
theorem perform_refines_history (ops : List Operation) (plain : Log.Plain (history ops)) :
    (∀ key, (empty.perform ops).contains key = true ↔ ∃ e ∈ Log.endpoints (history ops), e.key = key) ∧
    (empty.perform ops).keys = Log.keys (history ops) ∧
    (∀ key, (empty.perform ops).get? key =
      (Log.last? key (history ops)).map fun e => { e with responses := Log.samples key (history ops) }) ∧
    (∀ key e, (empty.perform ops).get? key = some e → endpointKey e.method e.path = key) ∧
    (empty.perform ops).snapshot =
      (Log.keys (history ops)).filterMap (fun key => ((empty.perform ops).get? key).map (key,·)) ∧
    ∀ before key sample after, ops = before ++ .append key sample :: after →
      (((empty.perform before).append? key sample).isSome = true ↔
        ∃ e ∈ Log.endpoints (history before), e.key = key) ∧
      ((empty.perform before).append? key sample = none →
        empty.perform (before ++ [.append key sample]) = empty.perform before) := by
  have refines : Refines (history ops) (empty.perform ops) := perform_eq empty ops ▸ replay_refines _ plain
  refine ⟨?_,refines.keys,refines.endpoint,fun key e found => refines.key found,?_,?_⟩
  · intro key
    rw [contains_iff,refines.mem_keys,Log.mem_keys]
  · have start : empty.keys.Nodup := List.nodup_nil
    rw [snapshot_eq _ (perform_eq empty ops ▸ nodup_replay start _),refines.keys]
  · intro before key sample after split
    have plainBefore : Log.Plain (history before) := by
      rw [split] at plain
      simp only [Log.Plain,history,List.flatMap_append,Log.endpoints_append] at plain
      exact (List.pairwise_append.mp plain).1
    have refinesBefore : Refines (history before) (empty.perform before) :=
      perform_eq empty before ▸ replay_refines _ plainBefore
    constructor
    · rw [append?_isSome,refinesBefore.mem_keys,Log.mem_keys]
    · intro refused
      simp [perform,List.foldl_append,Operation.apply] at refused ⊢
      simp [refused]

/-- One key is registered with a sample, sampled, registered again and sampled again; a sample comes too early for
    the other. -/
private def twoKeys : List Operation :=
  [.load [{ method := "GET", path := "/a", description := "old", responses := [⟨.null,200⟩] }],
    .append (endpointKey "GET" "/b") ⟨.bool false,200⟩,.append (endpointKey "GET" "/a") ⟨.int 0,201⟩,.read,
    .load [{ method := "GET", path := "/b" },{ method := "GET", path := "/a", description := "new" }],
    .append (endpointKey "GET" "/a") ⟨.str [],202⟩]

theorem perform_refines_history_twoKeys :
    Log.Plain (history twoKeys) ∧
    (empty.perform twoKeys).keys = [endpointKey "GET" "/a",endpointKey "GET" "/b"] ∧
    (empty.perform twoKeys).get? (endpointKey "GET" "/a") =
      some { method := "GET", path := "/a", description := "new",
             responses := [⟨.null,200⟩,⟨.int 0,201⟩,⟨.str [],202⟩] } ∧
    (empty.perform twoKeys).get? (endpointKey "GET" "/b") = some { method := "GET", path := "/b" } := by
  have plain : Log.Plain (history twoKeys) := by
    have registered : Log.endpoints (history twoKeys) =
        [{ method := "GET", path := "/a", description := "old", responses := [⟨.null,200⟩] },
          { method := "GET", path := "/b" },{ method := "GET", path := "/a", description := "new" }] := rfl
    rw [Log.Plain,registered]
    simp
  obtain ⟨_,keys,stored,_⟩ := perform_refines_history twoKeys plain
  exact ⟨plain,keys.trans (by decide),(stored _).trans (by cbv),(stored _).trans (by cbv)⟩

end ApiDocs.Registry
