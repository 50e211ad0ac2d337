import ApiDocs.Proofs.Registry.Log
import Mathlib.Data.List.Induction

/-!
What a registry holds after endpoints were loaded into it. The keys that it had keep their places, and new ones follow in
the order of their first endpoints (`keys_load`). The samples are those that were kept before and, behind them, those that
the endpoints bring (`samples_load_eq`). Under a loaded key stands the last endpoint of that key, under any other what was
there before, with the samples that were kept before when no endpoint brings any (`get?_load`).
-/
namespace ApiDocs.Registry

/-- The endpoint that stands last under a key. -/
def lastOf? (key : Text) (es : List Endpoint) : Option Endpoint := (es.filter (·.key = key)).getLast?

/-- The keys of endpoints that are not among others, in the order of their first endpoints. -/
def newKeys (old : List Text) (es : List Endpoint) : List Text := ((es.map Endpoint.key).filter (· ∉ old)).eraseDups

theorem load_append_singleton (r : Registry) (es : List Endpoint) (e : Endpoint) :
    r.load (es ++ [e]) = (r.load es).upsert e := by
  simp [load]

theorem lastOf?_append_singleton (key : Text) (es : List Endpoint) (e : Endpoint) :
    lastOf? key (es ++ [e]) = if e.key = key then some e else lastOf? key es := by
  by_cases own : e.key = key <;> simp [lastOf?,own]

theorem newKeys_append_singleton (old : List Text) (es : List Endpoint) (e : Endpoint) :
    newKeys old (es ++ [e]) =
      if e.key ∈ old ∨ e.key ∈ newKeys old es then newKeys old es else newKeys old es ++ [e.key] := by
  unfold newKeys
  by_cases known : e.key ∈ old
  · simp [known]
  · rw [List.map_append,List.filter_append]
    simp only [List.map_cons,List.map_nil,known,not_false_eq_true,decide_true,List.filter_cons_of_pos,List.filter_nil,
      Log.eraseDups_append_singleton,List.mem_eraseDups,false_or]

/-- Keys keep their places, and new ones follow in the order of their first endpoints. -/
theorem keys_load (r : Registry) (es : List Endpoint) : (r.load es).keys = r.keys ++ newKeys r.keys es := by
  induction es using List.reverseRecOn with
  | nil => exact (List.append_nil _).symm
  | append_singleton es e ih =>
    rw [load_append_singleton,keys_upsert,ih,newKeys_append_singleton]
    simp only [List.mem_append]
    split
    · rfl
    · rw [List.append_assoc]

/-! ### Samples -/

/-- The samples that endpoints bring for a key, in order. -/
def brought (key : Text) (es : List Endpoint) : List Response := (es.filter (·.key = key)).flatMap (·.responses)

theorem brought_cons (key : Text) (e : Endpoint) (es : List Endpoint) :
    brought key (e :: es) = (if e.key = key then e.responses else []) ++ brought key es := by
  by_cases own : e.key = key <;> simp [brought,own]

/-- What endpoints bring comes behind what was collected, and nothing of that is lost or moved. -/
theorem samples_load_eq (r : Registry) (es : List Endpoint) (key : Text) :
    (r.load es).samples key = r.samples key ++ brought key es := by
  induction es generalizing r with
  | nil => exact (List.append_nil _).symm
  | cons e rest ih =>
    show ((r.upsert e).load rest).samples key = _
    rw [ih,samples_upsert,brought_cons,List.append_assoc]

/-- Endpoints without samples leave those that are kept. -/
theorem samples_load (r : Registry) {es : List Endpoint} (plain : ∀ e ∈ es, e.responses = []) (key : Text) :
    (r.load es).samples key = r.samples key := by
  have nothing : brought key es = [] :=
    List.flatMap_eq_nil_iff.mpr fun e member => plain e (List.mem_filter.mp member).1
  rw [samples_load_eq,nothing,List.append_nil]

/-! ### The endpoint of a key -/

/-- Endpoints without samples replace what is documented, and leave the samples. -/
theorem get?_load (r : Registry) {es : List Endpoint} (plain : ∀ e ∈ es, e.responses = []) (key : Text) :
    (r.load es).get? key =
      match lastOf? key es with
      | some e => some { e with responses := r.samples key }
      | none => r.get? key := by
  induction es using List.reverseRecOn with
  | nil => rfl
  | append_singleton es e ih =>
    have earlier := ih fun f member => plain f (List.mem_append_left _ member)
    have bare : e.responses = [] := plain e (by simp)
    have kept := samples_load r (fun f member => plain f (List.mem_append_left _ member)) key
    rw [load_append_singleton,get?_upsert,lastOf?_append_singleton]
    by_cases own : e.key = key
    · simp only [own,↓reduceIte,kept,bare,List.append_nil]
    · simp only [own,↓reduceIte]
      exact earlier

end ApiDocs.Registry
