import ApiDocs.Proofs.Registry.Log
import Mathlib.Data.List.Induction

/-!
Endpoints that bring no samples may be loaded again at any time. Loading them commutes with handing in samples
(`load_replay_comm`), and loading them twice is loading them once (`load_idempotent`): of several endpoints under one
key the last one stays either way.
-/
namespace ApiDocs.Registry

/-- Endpoints of registered keys may be loaded before or after a sample is handed in. -/
theorem load_offer_comm {r : Registry} {es : List Endpoint} (plain : ∀ e ∈ es, e.responses = [])
    (registered : ∀ e ∈ es, e.key ∈ r.keys) (key : Text) (sample : Response) :
    (r.offer key sample).load es = (r.load es).offer key sample := by
  induction es generalizing r with
  | nil => rfl
  | cons e rest ih =>
    have own : e.key = key → key ∈ r.keys := fun same => same ▸ registered e List.mem_cons_self
    have later : ∀ f ∈ rest, f.key ∈ (r.upsert e).keys := fun f member =>
      (mem_keys_upsert r e f.key).mpr (.inl (registered f (List.mem_cons_of_mem e member)))
    show ((r.offer key sample).upsert e).load rest = ((r.upsert e).load rest).offer key sample
    rw [offer_upsert r e key sample (plain e List.mem_cons_self) own]
    exact ih (fun f member => plain f (List.mem_cons_of_mem e member)) later

/-- Endpoints of registered keys may be loaded before or after any samples are handed in. -/
theorem load_replay_comm {r : Registry} {es : List Endpoint} (plain : ∀ e ∈ es, e.responses = [])
    (registered : ∀ e ∈ es, e.key ∈ r.keys) {log : List Entry} (sampling : Log.endpoints log = []) :
    (r.replay log).load es = (r.load es).replay log := by
  induction log generalizing r with
  | nil => rfl
  | cons entry rest ih =>
    cases entry with
    | registered e => cases sampling
    | sampled key sample =>
      have later : ∀ e ∈ es, e.key ∈ (r.offer key sample).keys := fun e member =>
        (keys_offer r key sample).symm ▸ registered e member
      show ((r.offer key sample).replay rest).load es = ((r.load es).offer key sample).replay rest
      rw [ih later sampling,load_offer_comm plain registered]

/-- An endpoint that is registered again at the end need not have been registered before others whose keys have
    their places. -/
theorem upsert_absorbed {r : Registry} {e : Endpoint} (plain : e.responses = []) {es : List Endpoint}
    (registered : ∀ f ∈ es, f.key ∈ r.keys) : ((r.upsert e).load es).upsert e = (r.load es).upsert e := by
  induction es generalizing r with
  | nil => exact upsert_twice r e e rfl plain
  | cons f rest ih =>
    show (((r.upsert e).upsert f).load rest).upsert e = ((r.upsert f).load rest).upsert e
    by_cases same : e.key = f.key
    · -- The first registration is covered by that of the other endpoint already.
      rw [upsert_twice r f e same plain]
    · have later : ∀ g ∈ rest, g.key ∈ (r.upsert f).keys := fun g member =>
        (mem_keys_upsert r f g.key).mpr (.inl (registered g (List.mem_cons_of_mem f member)))
      rw [upsert_comm r f e (Ne.symm same) (registered f List.mem_cons_self),ih later]

/-- Endpoints that were loaded may be loaded again, also when several of them have one key. -/
theorem load_idempotent (r : Registry) {es : List Endpoint} (plain : ∀ e ∈ es, e.responses = []) :
    (r.load es).load es = r.load es := by
  -- The last endpoint decides what stays under its key, so the induction takes endpoints from the end.
  induction es using List.reverseRecOn with
  | nil => rfl
  | append_singleton es e ih =>
    have split : ∀ s : Registry, s.load (es ++ [e]) = (s.load es).upsert e := fun s => by simp [load]
    have registered : ∀ f ∈ es, f.key ∈ (r.load es).keys := fun f member =>
      (mem_keys_load r es f.key).mpr (.inr ⟨f,member,rfl⟩)
    rw [split,split,upsert_absorbed (plain e (by simp)) registered,ih (fun f member => plain f (by simp [member]))]

end ApiDocs.Registry
