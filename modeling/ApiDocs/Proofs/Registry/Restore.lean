import ApiDocs.Proofs.Registry.Merge
import ApiDocs.Proofs.Registry.Reload

/-!
What registering does to samples that were collected. They all stay, in their order, and the samples that an endpoint
brings with it come behind them, also when they are the same ones: a registry into which its own snapshot is loaded has
every sample twice (`load_snapshot`). So nothing changes exactly when no endpoint brings samples
(`perform_load`).
-/
namespace ApiDocs.Registry

/-! ### Endpoints under their own keys -/

/-- A registry that can be read off its entries: no key stands twice, and every endpoint under its own. -/
structure IsKeyed (r : Registry) : Prop where
  distinct : r.keys.Nodup
  own : ∀ entry ∈ r.entries, entry.2.key = entry.1

theorem isKeyed_empty : empty.IsKeyed := ⟨List.nodup_nil,fun _ member => absurd member List.not_mem_nil⟩

theorem isKeyed_of_get? {r : Registry} (distinct : r.keys.Nodup) (own : ∀ key e, r.get? key = some e → e.key = key) :
    r.IsKeyed :=
  ⟨distinct,fun ⟨key,e⟩ member => own key e ((mem_entries_iff distinct key e).mp member)⟩

theorem IsKeyed.get? {r : Registry} (keyed : r.IsKeyed) {key : Text} {e : Endpoint} (found : r.get? key = some e) :
    e.key = key :=
  keyed.own (key,e) ((mem_entries_iff keyed.distinct key e).mpr found)

theorem IsKeyed.upsert {r : Registry} (keyed : r.IsKeyed) (e : Endpoint) : (r.upsert e).IsKeyed := by
  refine isKeyed_of_get? (nodup_upsert keyed.distinct e) fun key f found => ?_
  rw [get?_upsert] at found
  split at found
  · rename_i own
    rw [← Option.some.inj found]
    exact own
  · exact keyed.get? found

theorem IsKeyed.offer {r : Registry} (keyed : r.IsKeyed) (name : Text) (sample : Response) :
    (r.offer name sample).IsKeyed := by
  refine isKeyed_of_get? ((keys_offer r name sample).symm ▸ keyed.distinct) fun key f found => ?_
  rw [get?_offer] at found
  split at found
  · obtain ⟨e,before,rfl⟩ := Option.map_eq_some_iff.mp found
    have own : e.key = key := keyed.get? before
    exact own
  · exact keyed.get? found

theorem IsKeyed.replay {r : Registry} (keyed : r.IsKeyed) (log : List Entry) : (r.replay log).IsKeyed := by
  induction log generalizing r with
  | nil => exact keyed
  | cons entry rest ih =>
    cases entry with
    | registered e => exact ih (keyed.upsert e)
    | sampled key sample => exact ih (keyed.offer key sample)

/-- Whatever is done with a registry, it is read off its entries. -/
theorem isKeyed_perform (ops : List Operation) : (empty.perform ops).IsKeyed :=
  perform_eq empty ops ▸ isKeyed_empty.replay (history ops)

/-! ### Loading again -/

/-- Endpoints of which one brings a sample cannot be loaded again without a change. -/
theorem load_idempotent_iff (r : Registry) (es : List Endpoint) :
    (r.load es).load es = r.load es ↔ ∀ e ∈ es, e.responses = [] := by
  refine ⟨fun same e member => ?_,load_idempotent r⟩
  have again := samples_load_eq (r.load es) es e.key
  rw [same] at again
  have nothing : brought e.key es = [] := List.append_right_eq_self.mp again.symm
  exact List.flatMap_eq_nil_iff.mp nothing e (List.mem_filter.mpr ⟨member,by simp⟩)

/-! ### The own snapshot -/

/-- An endpoint with its samples behind themselves. -/
def doubled (entry : Text × Endpoint) : Text × Endpoint :=
  (entry.1,{ entry.2 with responses := entry.2.responses ++ entry.2.responses })

theorem keys_map_doubled (s : Snapshot) : (s.map doubled).map (·.1) = s.map (·.1) := by
  simp [doubled,Function.comp_def]

theorem doubled_eq_iff (entry : Text × Endpoint) : doubled entry = entry ↔ entry.2.responses = [] := by
  obtain ⟨key,⟨_,_,_,_,_,_,responses⟩⟩ := entry
  simp [doubled]

/-- Behind entries that were loaded again stand the others as they were. -/
theorem load_entries_again (before : Snapshot) {s : Snapshot} (own : ∀ entry ∈ s, entry.2.key = entry.1)
    (distinct : ((before ++ s).map (·.1)).Nodup) :
    load ⟨before.map doubled ++ s⟩ (s.map (·.2)) = ⟨(before ++ s).map doubled⟩ := by
  induction s generalizing before with
  | nil => rw [List.append_nil,List.append_nil]; rfl
  | cons entry rest ih =>
    obtain ⟨first,others⟩ := List.forall_mem_cons.mp own
    have absent : entry.2.key ∉ (before.map doubled).map (·.1) := by
      rw [keys_map_doubled,first]
      intro member
      rw [List.map_append,List.nodup_append] at distinct
      exact distinct.2.2 _ member _ List.mem_cons_self rfl
    have step : upsert ⟨before.map doubled ++ entry :: rest⟩ entry.2 = ⟨(before ++ [entry]).map doubled ++ rest⟩ := by
      rw [upsert,upsertIn_append absent,upsertIn,if_pos first.symm]
      simp [doubled]
    show (upsert _ entry.2).load (rest.map (·.2)) = _
    rw [step,ih (before ++ [entry]) others (by simpa using distinct),List.append_assoc]
    rfl

/-- A registry into which its own snapshot is loaded has every sample twice. -/
theorem load_snapshot {r : Registry} (keyed : r.IsKeyed) :
    r.load (r.snapshot.map (·.2)) = ⟨r.snapshot.map doubled⟩ :=
  load_entries_again [] keyed.own keyed.distinct

theorem load_snapshot_eq_self_iff {r : Registry} (keyed : r.IsKeyed) :
    r.load (r.snapshot.map (·.2)) = r ↔ ∀ entry ∈ r.snapshot, entry.2.responses = [] := by
  have each : r.entries.map doubled = r.entries.map id ↔ ∀ entry ∈ r.entries, entry.2.responses = [] := by
    rw [List.map_inj_left]
    exact forall₂_congr fun entry _ => doubled_eq_iff entry
  rw [List.map_id] at each
  rw [load_snapshot keyed]
  exact ⟨fun same => each.mp (congrArg entries same),fun bare => congrArg Registry.mk (each.mpr bare)⟩

/-- What registering does to the samples of a registry, whatever was done with it before. An endpoint of a registered key
    replaces what is documented and leaves the samples in front of those that it brings, and nothing else changes; so the
    samples stay as they were exactly when it brings none. Loading endpoints a second time, and loading the own snapshot,
    which doubles all samples, change nothing exactly when no endpoint brings samples. -/
theorem perform_load (ops : List Operation) :
    (∀ e : Endpoint, (empty.perform ops).contains e.key = true →
      ((empty.perform ops).upsert e).keys = (empty.perform ops).keys ∧
      ((empty.perform ops).upsert e).get? e.key =
        some { e with responses := (empty.perform ops).samples e.key ++ e.responses } ∧
      (∀ key, key ≠ e.key → ((empty.perform ops).upsert e).get? key = (empty.perform ops).get? key) ∧
      (((empty.perform ops).upsert e).samples e.key = (empty.perform ops).samples e.key ↔ e.responses = [])) ∧
    (∀ es : List Endpoint,
      (((empty.perform ops).load es).load es = (empty.perform ops).load es ↔ ∀ e ∈ es, e.responses = [])) ∧
    ((empty.perform ops).load ((empty.perform ops).snapshot.map (·.2))).snapshot =
      (empty.perform ops).snapshot.map doubled ∧
    ((empty.perform ops).load ((empty.perform ops).snapshot.map (·.2)) = empty.perform ops ↔
      ∀ entry ∈ (empty.perform ops).snapshot, entry.2.responses = []) := by
  have keyed := isKeyed_perform ops
  refine ⟨fun e registered => ⟨?_,?_,fun key other => ?_,?_⟩,load_idempotent_iff _,?_,load_snapshot_eq_self_iff keyed⟩
  · rw [keys_upsert,if_pos ((contains_iff _ _).mp registered)]
  · rw [get?_upsert,if_pos rfl]
  · rw [get?_upsert,if_neg (Ne.symm other)]
  · rw [samples_upsert,if_pos rfl,List.append_right_eq_self]
  · rw [load_snapshot keyed]
    rfl

/-! A route is documented and sampled once. -/

private def sampledOnce : List Operation :=
  [.load [{ method := "GET", path := "/a" }],.append (endpointKey "GET" "/a") ⟨.null,200⟩]

theorem perform_load_bare :
    (empty.perform sampledOnce).contains (endpointKey "GET" "/a") = true ∧
    (((empty.perform sampledOnce).upsert { method := "GET", path := "/a", description := "new" }).get?
      (endpointKey "GET" "/a")) = some { method := "GET", path := "/a", description := "new", responses := [⟨.null,200⟩] } ∧
    ((empty.perform sampledOnce).load [{ method := "GET", path := "/a" }]).load [{ method := "GET", path := "/a" }] =
      (empty.perform sampledOnce).load [{ method := "GET", path := "/a" }] := by
  have registered : (empty.perform sampledOnce).contains (endpointKey "GET" "/a") = true := by decide
  obtain ⟨upserted,loaded,_⟩ := perform_load sampledOnce
  obtain ⟨_,stored,_⟩ := upserted { method := "GET", path := "/a", description := "new" } registered
  exact ⟨registered,stored.trans rfl,(loaded [{ method := "GET", path := "/a" }]).mpr (by simp)⟩

/-- The sample is there twice when the registry's own snapshot is loaded into it. -/
theorem perform_load_doubled :
    (empty.perform sampledOnce).samples (endpointKey "GET" "/a") = [⟨.null,200⟩] ∧
    ((empty.perform sampledOnce).load ((empty.perform sampledOnce).snapshot.map (·.2))).samples (endpointKey "GET" "/a") =
      [⟨.null,200⟩,⟨.null,200⟩] := ⟨rfl,rfl⟩

end ApiDocs.Registry
