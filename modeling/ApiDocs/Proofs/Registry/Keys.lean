import ApiDocs.Proofs.Registry.Merge

/-!
When endpoints share a key. A key is a method and a path with a blank between them, and nothing tells this blank from one
inside them. So the keys of two endpoints are equal exactly when their methods and paths are, or when the method of one goes
on behind a blank with what the path of the other begins with (`Endpoint.key_eq_iff`). Endpoints are all kept by a registry
that they are loaded into exactly when no two of them cross in this way (`Registry.keeps_load_iff`).
-/
namespace ApiDocs

namespace Endpoint

/-- Two endpoints cross when the method of the second goes on behind a blank with the text that the path of the first has in
    front of a blank and the path of the second. -/
def Crosses (e f : Endpoint) : Prop :=
  ∃ between, f.method = e.method ++ 0x20 :: between ∧ e.path = between ++ 0x20 :: f.path

/-- The methods of endpoints that cross are not the same. -/
theorem Crosses.method_ne {e f : Endpoint} (crosses : e.Crosses f) : e.method ≠ f.method := by
  obtain ⟨between,longer,_⟩ := crosses
  intro same
  have lengths := congrArg List.length (same.trans longer)
  simp at lengths

/-- Endpoints have the same key when they have the same method and path, or cross. -/
theorem key_eq_iff (e f : Endpoint) :
    e.key = f.key ↔ (e.method = f.method ∧ e.path = f.path) ∨ e.Crosses f ∨ f.Crosses e := by
  unfold key endpointKey
  rw [List.append_eq_append_iff]
  constructor
  · rintro (⟨more,longer,rest⟩ | ⟨more,longer,rest⟩)
    · cases more with
      | nil => exact .inl ⟨by simpa using longer.symm,by simpa using rest⟩
      | cons c between =>
        obtain ⟨rfl,path⟩ := List.cons.inj rest
        exact .inr (.inl ⟨between,longer,path⟩)
    · cases more with
      | nil => exact .inl ⟨by simpa using longer,by simpa using rest.symm⟩
      | cons c between =>
        obtain ⟨rfl,path⟩ := List.cons.inj rest
        exact .inr (.inr ⟨between,longer,path⟩)
  · rintro (⟨method,path⟩ | ⟨between,longer,path⟩ | ⟨between,longer,path⟩)
    · exact .inl ⟨[],by simp [method],by simp [path]⟩
    · exact .inl ⟨0x20 :: between,longer,by simp [path]⟩
    · exact .inr ⟨0x20 :: between,longer,by simp [path]⟩

end Endpoint

namespace Registry

/-- An endpoint is kept: its method and path are documented under its key. -/
def Keeps (r : Registry) (e : Endpoint) : Prop :=
  ∃ kept, r.get? e.key = some kept ∧ kept.method = e.method ∧ kept.path = e.path

/-- Under the key of an endpoint that was loaded stands one of those that were loaded. -/
theorem exists_get?_load (r : Registry) {es : List Endpoint} {e : Endpoint} (member : e ∈ es) :
    ∃ f ∈ es, f.key = e.key ∧ ∃ kept, (r.load es).get? e.key = some kept ∧ kept.documentation = f.documentation := by
  induction es using List.reverseRecOn with
  | nil => cases member
  | append_singleton es last ih =>
    rw [load_append_singleton,get?_upsert]
    by_cases own : last.key = e.key
    · exact ⟨last,by simp,own,_,if_pos own,rfl⟩
    · have earlier : e ∈ es := by
        rcases List.mem_append.mp member with earlier | here
        · exact earlier
        · exact absurd (congrArg Endpoint.key (List.mem_singleton.mp here).symm) own
      obtain ⟨f,among,same,kept,found,documented⟩ := ih earlier
      exact ⟨f,List.mem_append_left _ among,same,kept,(if_neg own).trans found,documented⟩

/-- Loading keeps all endpoints exactly when no two of them cross. -/
theorem keeps_load_iff (r : Registry) (es : List Endpoint) :
    (∀ e ∈ es, (r.load es).Keeps e) ↔ ∀ e ∈ es, ∀ f ∈ es, ¬ e.Crosses f := by
  constructor
  · intro keeps e among f amongToo crosses
    have shared : e.key = f.key := (e.key_eq_iff f).mpr (.inr (.inl crosses))
    obtain ⟨kept,found,method,_⟩ := keeps e among
    obtain ⟨other,foundToo,otherMethod,_⟩ := keeps f amongToo
    rw [← shared,found] at foundToo
    obtain rfl := Option.some.inj foundToo
    exact crosses.method_ne (method.symm.trans otherMethod)
  · intro apart e member
    obtain ⟨f,among,same,kept,found,documented⟩ := exists_get?_load r member
    have method : kept.method = f.method := congrArg (·.method) documented
    have path : kept.path = f.path := congrArg (·.path) documented
    rcases (f.key_eq_iff e).mp same with ⟨sameMethod,samePath⟩ | crosses | crosses
    · exact ⟨kept,found,method.trans sameMethod,path.trans samePath⟩
    · exact absurd crosses (apart f among e member)
    · exact absurd crosses (apart e member f among)

end Registry

end ApiDocs
