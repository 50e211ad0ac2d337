import ApiDocs.Registry
import Mathlib.Data.List.Basic

/-!
What registering an endpoint and adding a sample do to a registry, seen through its keys and through
the endpoint of each key. The two commute under a key that is present, and of two endpoints that are
registered under one key the later one stays.
-/
namespace ApiDocs

/-- What is documented about an endpoint, without what was observed of it. -/
def Endpoint.documentation (e : Endpoint) : Endpoint := { e with responses := [] }

namespace Registry

/-- A sample is handed to the endpoint of a key; without one nothing changes. -/
def offer (r : Registry) (key : Text) (sample : Response) : Registry := (r.append? key sample).getD r

theorem contains_iff (r : Registry) (key : Text) : r.contains key = true ↔ key ∈ r.keys := by
  simp [contains,keys]

theorem appendIn_absent (key : Text) (sample : Response) (s : Snapshot) (absent : key ∉ s.map (·.1)) :
    appendIn key sample s = s := by
  induction s with
  | nil => rfl
  | cons entry rest ih =>
    simp only [List.map_cons,List.mem_cons,not_or] at absent
    simp only [appendIn,Ne.symm absent.1,↓reduceIte,ih absent.2]

/-- Whether a key is present need not be asked before a sample is added. -/
theorem offer_eq (r : Registry) (key : Text) (sample : Response) :
    r.offer key sample = ⟨appendIn key sample r.entries⟩ := by
  unfold offer append?
  by_cases present : r.contains key = true
  · rw [if_pos present]; rfl
  · rw [if_neg present,appendIn_absent key sample r.entries (fun member => present ((contains_iff r key).mpr member))]
    rfl

theorem append?_isSome (r : Registry) (key : Text) (sample : Response) :
    (r.append? key sample).isSome = true ↔ key ∈ r.keys := by
  unfold append?
  rw [← contains_iff]
  by_cases present : r.contains key = true <;> simp [present]

/-- A sample under a registered key is taken. -/
theorem append?_eq_offer {r : Registry} {key : Text} (present : key ∈ r.keys) (sample : Response) :
    r.append? key sample = some (r.offer key sample) := by
  obtain ⟨s,taken⟩ := Option.isSome_iff_exists.mp ((r.append?_isSome key sample).mpr present)
  rw [offer,taken]
  rfl

/-- A key that is not registered takes no sample. -/
theorem offer_absent {r : Registry} {key : Text} (sample : Response) (absent : key ∉ r.keys) :
    r.offer key sample = r := by
  rw [offer_eq,appendIn_absent key sample r.entries absent]

/-! ### Keys -/

theorem keys_upsertIn (e : Endpoint) (s : Snapshot) :
    (upsertIn e s).map (·.1) = if e.key ∈ s.map (·.1) then s.map (·.1) else s.map (·.1) ++ [e.key] := by
  induction s with
  | nil => rfl
  | cons entry rest ih =>
    by_cases same : entry.1 = e.key
    · simp [upsertIn,same]
    · simp only [upsertIn,same,↓reduceIte,List.map_cons,ih,List.mem_cons,Ne.symm same,false_or]
      split <;> rfl

/-- A key that is present keeps its place, and a new one comes last. -/
theorem keys_upsert (r : Registry) (e : Endpoint) :
    (r.upsert e).keys = if e.key ∈ r.keys then r.keys else r.keys ++ [e.key] :=
  keys_upsertIn e r.entries

theorem mem_keys_upsert (r : Registry) (e : Endpoint) (key : Text) :
    key ∈ (r.upsert e).keys ↔ key ∈ r.keys ∨ key = e.key := by
  rw [keys_upsert]
  split
  · constructor
    · exact .inl
    · rintro (old | rfl) <;> assumption
  · simp

/-- An endpoint passes by the entries of other keys. -/
theorem upsertIn_append {e : Endpoint} {before : Snapshot} (absent : e.key ∉ before.map (·.1)) (after : Snapshot) :
    upsertIn e (before ++ after) = before ++ upsertIn e after := by
  induction before with
  | nil => rfl
  | cons entry rest ih =>
    simp only [List.map_cons,List.mem_cons,not_or] at absent
    simp [upsertIn,Ne.symm absent.1,ih absent.2]

theorem keys_appendIn (key : Text) (sample : Response) (s : Snapshot) :
    (appendIn key sample s).map (·.1) = s.map (·.1) := by
  induction s with
  | nil => rfl
  | cons entry rest ih =>
    by_cases same : entry.1 = key
    · simp [appendIn,same]
    · simp [appendIn,same,ih]

@[simp] theorem keys_offer (r : Registry) (key : Text) (sample : Response) : (r.offer key sample).keys = r.keys := by
  rw [offer_eq]
  exact keys_appendIn key sample r.entries

/-- No key stands twice in a registry that is built up from one where none does. -/
theorem nodup_upsert {r : Registry} (distinct : r.keys.Nodup) (e : Endpoint) : (r.upsert e).keys.Nodup := by
  rw [keys_upsert]
  split
  · exact distinct
  · rename_i absent
    refine List.nodup_append.mpr ⟨distinct,by simp,?_⟩
    rintro key member _ new rfl
    exact absent (List.mem_singleton.mp new ▸ member)

theorem mem_keys_load (r : Registry) (es : List Endpoint) (key : Text) :
    key ∈ (r.load es).keys ↔ key ∈ r.keys ∨ ∃ e ∈ es, e.key = key := by
  induction es generalizing r with
  | nil => simp [load]
  | cons e rest ih =>
    have step : r.load (e :: rest) = (r.upsert e).load rest := rfl
    rw [step,ih,mem_keys_upsert]
    simp [or_assoc,eq_comm]

/-! ### The endpoint of a key -/

theorem get?_cons (entry : Text × Endpoint) (rest : Snapshot) (key : Text) :
    get? ⟨entry :: rest⟩ key = if entry.1 = key then some entry.2 else get? ⟨rest⟩ key := by
  by_cases same : entry.1 = key <;> simp [get?,same]

theorem get?_isSome (r : Registry) (key : Text) : (r.get? key).isSome = true ↔ key ∈ r.keys := by
  simp [get?,keys]

/-- A registry in which no key stands twice is read off key by key. -/
theorem snapshot_eq (r : Registry) (distinct : r.keys.Nodup) :
    r.snapshot = r.keys.filterMap fun key => (r.get? key).map (key,·) := by
  obtain ⟨s⟩ := r
  induction s with
  | nil => rfl
  | cons entry rest ih =>
    obtain ⟨fresh,distinct⟩ := List.nodup_cons.mp distinct
    have later : ∀ key ∈ rest.map (·.1), get? ⟨entry :: rest⟩ key = get? ⟨rest⟩ key := by
      intro key member
      have other : ¬ entry.1 = key := by
        rintro rfl
        exact fresh member
      rw [get?_cons,if_neg other]
    have tail : rest = (rest.map (·.1)).filterMap fun key => (get? ⟨entry :: rest⟩ key).map (key,·) :=
      (ih distinct).trans (List.filterMap_congr (fun key member => by rw [later key member]))
    have head : get? ⟨entry :: rest⟩ entry.1 = some entry.2 := by
      rw [get?_cons,if_pos rfl]
    show entry :: rest = (entry.1 :: rest.map (·.1)).filterMap _
    rw [List.filterMap_cons,head,← tail]
    rfl

/-- Where no key stands twice, an entry is the endpoint of its key. -/
theorem mem_entries_iff {r : Registry} (distinct : r.keys.Nodup) (key : Text) (e : Endpoint) :
    (key,e) ∈ r.entries ↔ r.get? key = some e := by
  obtain ⟨s⟩ := r
  induction s with
  | nil => simp [get?]
  | cons entry rest ih =>
    obtain ⟨fresh,distinct⟩ := List.nodup_cons.mp distinct
    rw [List.mem_cons,get?_cons,ih distinct]
    by_cases own : entry.1 = key
    · subst own
      have absent : get? ⟨rest⟩ entry.1 = none := by
        rw [← Option.not_isSome_iff_eq_none,get?_isSome]
        exact fresh
      simp [absent,Prod.ext_iff,eq_comm]
    · simp [own,Prod.ext_iff,Ne.symm own]

/-- The samples that are kept for a key: none when it is not registered. -/
def samples (r : Registry) (key : Text) : List Response := ((r.get? key).map (·.responses)).getD []

/-- A registered endpoint stands under its key with the samples that were kept there before its own. -/
theorem get?_upsert (r : Registry) (e : Endpoint) (key : Text) :
    (r.upsert e).get? key =
      if e.key = key then some { e with responses := r.samples key ++ e.responses } else r.get? key := by
  unfold upsert samples
  obtain ⟨s⟩ := r
  induction s with
  | nil => by_cases own : e.key = key <;> simp [upsertIn,get?,own]
  | cons entry rest ih =>
    by_cases same : entry.1 = e.key
    · by_cases own : e.key = key <;> simp [upsertIn,get?_cons,same,own]
    · simp only [upsertIn,same,↓reduceIte,get?_cons]
      by_cases here : entry.1 = key
      · have other : ¬ e.key = key := fun own => same (here.trans own.symm)
        simp [here,other]
      · simp only [here,↓reduceIte]
        exact ih

/-- A registered endpoint brings its samples behind those that were kept for its key. -/
theorem samples_upsert (r : Registry) (e : Endpoint) (key : Text) :
    (r.upsert e).samples key = r.samples key ++ if e.key = key then e.responses else [] := by
  unfold samples
  rw [get?_upsert]
  by_cases own : e.key = key <;> simp [own,samples]

/-- A sample stands behind those that its endpoint has. -/
theorem get?_offer (r : Registry) (name : Text) (sample : Response) (key : Text) :
    (r.offer name sample).get? key =
      if name = key then (r.get? key).map fun e => { e with responses := e.responses ++ [sample] }
      else r.get? key := by
  rw [offer_eq]
  obtain ⟨s⟩ := r
  induction s with
  | nil => by_cases own : name = key <;> simp [appendIn,get?]
  | cons entry rest ih =>
    by_cases same : entry.1 = name
    · by_cases own : name = key <;> simp [appendIn,get?_cons,same,own]
    · simp only [appendIn,same,↓reduceIte,get?_cons]
      by_cases here : entry.1 = key
      · have other : ¬ name = key := fun own => same (here.trans own.symm)
        simp [here,other]
      · simp only [here,↓reduceIte]
        exact ih

/-- A registered key has a sample more, and the other keys have theirs. -/
theorem samples_offer {r : Registry} {name : Text} (present : name ∈ r.keys) (sample : Response) (key : Text) :
    (r.offer name sample).samples key = r.samples key ++ if name = key then [sample] else [] := by
  unfold samples
  rw [get?_offer]
  by_cases own : name = key
  · subst own
    obtain ⟨e,found⟩ := Option.isSome_iff_exists.mp ((r.get?_isSome name).mpr present)
    simp [found]
  · simp [own]

/-! ### Changes in either order -/

theorem upsertIn_appendIn (e : Endpoint) (key : Text) (sample : Response) (plain : e.responses = []) (s : Snapshot)
    (present : e.key = key → key ∈ s.map (·.1)) :
    upsertIn e (appendIn key sample s) = appendIn key sample (upsertIn e s) := by
  induction s with
  | nil =>
    have other : ¬ e.key = key := fun own => List.not_mem_nil (present own)
    simp [upsertIn,appendIn,other]
  | cons entry rest ih =>
    by_cases own : e.key = key
    · subst own
      by_cases same : entry.1 = e.key
      · simp [upsertIn,appendIn,same,plain]
      · have later : e.key ∈ rest.map (·.1) := by
          simpa [Ne.symm same] using present rfl
        simp [upsertIn,appendIn,same,ih (fun _ => later)]
    · by_cases same : entry.1 = e.key
      · simp [upsertIn,appendIn,same,own]
      · by_cases here : entry.1 = key
        · simp [upsertIn,appendIn,here,Ne.symm own]
        · simp [upsertIn,appendIn,same,here,ih (fun h => absurd h own)]

/-- An endpoint without samples may be registered before or after a sample is added, unless that sample
    is for its own key and the key is new. -/
theorem offer_upsert (r : Registry) (e : Endpoint) (key : Text) (sample : Response) (plain : e.responses = [])
    (present : e.key = key → key ∈ r.keys) : (r.offer key sample).upsert e = (r.upsert e).offer key sample := by
  rw [offer_eq,offer_eq]
  exact congrArg Registry.mk (upsertIn_appendIn e key sample plain r.entries present)

theorem upsertIn_twice (e f : Endpoint) (same : f.key = e.key) (plain : f.responses = []) (s : Snapshot) :
    upsertIn e (upsertIn f s) = upsertIn e s := by
  induction s with
  | nil => simp [upsertIn,same,plain]
  | cons entry rest ih =>
    by_cases here : entry.1 = e.key
    · simp [upsertIn,here,same,plain]
    · simp [upsertIn,here,same,ih]

/-- Of two endpoints under one key only the later one is seen. -/
theorem upsert_twice (r : Registry) (e f : Endpoint) (same : f.key = e.key) (plain : f.responses = []) :
    (r.upsert f).upsert e = r.upsert e :=
  congrArg Registry.mk (upsertIn_twice e f same plain r.entries)

theorem upsertIn_comm (e f : Endpoint) (other : e.key ≠ f.key) (s : Snapshot) (present : e.key ∈ s.map (·.1)) :
    upsertIn e (upsertIn f s) = upsertIn f (upsertIn e s) := by
  induction s with
  | nil => exact absurd present List.not_mem_nil
  | cons entry rest ih =>
    by_cases here : entry.1 = e.key
    · simp [upsertIn,here,other]
    · have later : e.key ∈ rest.map (·.1) := by
        simpa [Ne.symm here] using present
      by_cases there : entry.1 = f.key
      · simp [upsertIn,there,Ne.symm other]
      · simp [upsertIn,here,there,ih later]

/-- Endpoints under two keys may be registered in either order when one of the keys has its place. -/
theorem upsert_comm (r : Registry) (e f : Endpoint) (other : e.key ≠ f.key) (present : e.key ∈ r.keys) :
    (r.upsert f).upsert e = (r.upsert e).upsert f :=
  congrArg Registry.mk (upsertIn_comm e f other r.entries present)

end Registry

end ApiDocs
