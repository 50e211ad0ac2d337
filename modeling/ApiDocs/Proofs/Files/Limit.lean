import ApiDocs.Proofs.Files.Resolving

/-!
Scans with a limit. A scan matches the same places whatever its limit is (`Files.exists_matched`), and the limit takes the
first of them. So a limit gives the beginning of the whole scan, one place longer than the limit when that is zero
(`Files.scan_limited`).
-/
namespace ApiDocs.Files

/-- A scan is refused, or it resolves the same places whatever the limit is. -/
theorem exists_matched (fs : Files) (p : Path) (pattern : Text) :
    (∃ e, ∀ limit, fs.scan p pattern limit = .error e) ∨
      ∃ matched, ∀ limit, fs.scan p pattern limit = fs.resolveSome limit matched := by
  unfold scan
  cases checkPath (nullMessage "scandir") p with
  | error e => exact .inl ⟨_,fun _ => rfl⟩
  | ok _ =>
    refine .inr ?_
    cases fs.follow true p with
    | node place n => exact ⟨_,fun _ => rfl⟩
    | _ => exact ⟨[],fun _ => rfl⟩

/-- The first of the places that are resolved are resolved to the first of those that come out. -/
theorem resolveSome_take {fs : Files} {matched places : List Place} (run : fs.resolveSome none matched = .ok places)
    (k : Nat) : fs.resolveSome none (matched.take k) = .ok (places.take k) :=
  (resolveSome_ok_iff _ _).mpr (List.forall₂_take k ((resolveSome_ok_iff _ _).mp run))

/-- When not all places can be resolved, the first of them stop in the same way, or they are all in front of that. -/
theorem resolveSome_take_error {fs : Files} {matched : List Place} {e : ResolveError}
    (stopped : fs.resolveSome none matched = .error e) (k : Nat) :
    fs.resolveSome none (matched.take k) = .error e ∨
      ∃ first, fs.resolveSome none (matched.take k) = .ok first ∧ first.length = k := by
  cases run : fs.resolveSome none (matched.take k) with
  | error f =>
    have whole := resolveSome_append_error run (matched.drop k)
    rw [List.take_append_drop,stopped] at whole
    exact .inl whole.symm
  | ok first =>
    refine .inr ⟨first,rfl,?_⟩
    have each := ((resolveSome_ok_iff _ _).mp run).length_eq
    have inside : k ≤ matched.length := by
      by_contra beyond
      rw [List.take_of_length_le (by omega),stopped] at run
      cases run
    rw [← each,List.length_take,Nat.min_eq_left inside]

/-- A scan with a limit gives the beginning of the whole scan, at least one place of it, and stops where that stops unless
    the limit is reached before. It is as long as the limit asks for unless the limit is zero and something is found. -/
theorem scan_limited (fs : Files) (p : Path) (pattern : Text) (n : Nat) :
    (∀ places, fs.scan p pattern none = .ok places →
      fs.scan p pattern (some n) = .ok (places.take (max n 1)) ∧
        (fs.scan p pattern (some n) = .ok (places.take n) ↔ n ≠ 0 ∨ places = [])) ∧
    (∀ e, fs.scan p pattern none = .error e → fs.scan p pattern (some n) = .error e ∨
      ∃ first, fs.scan p pattern (some n) = .ok first ∧ first.length = max n 1) ∧
    ∀ first, fs.scan p pattern (some n) = .ok first → first.length ≤ max n 1 := by
  rcases fs.exists_matched p pattern with ⟨f,refused⟩ | ⟨matched,same⟩
  · simp only [refused]
    exact ⟨by rintro _ ⟨⟩,by rintro _ ⟨⟩; exact .inl rfl,by rintro _ ⟨⟩⟩
  simp only [same,resolveSome_limit]
  refine ⟨fun places run => ⟨resolveSome_take run _,?_⟩,fun e stopped => resolveSome_take_error stopped _,?_⟩
  · rw [resolveSome_take run]
    by_cases zero : n = 0
    · subst zero
      cases places <;> simp
    · simp [zero,Nat.max_eq_left (Nat.one_le_iff_ne_zero.mpr zero)]
  · intro first run
    rw [← ((resolveSome_ok_iff _ _).mp run).length_eq]
    exact List.length_take_le _ _

/-! Three files, of which two are asked for, and then none. -/

private def threeFiles : Files := { root := .directory [("c.py",.file []),("a.py",.file []),("b.py",.file [])] }

private theorem scan_threeFiles : threeFiles.scan ⟨1,[]⟩ "*.py" none = .ok [["a.py"],["b.py"],["c.py"]] := by
  cbv

theorem scan_limited_two : threeFiles.scan ⟨1,[]⟩ "*.py" none = .ok [["a.py"],["b.py"],["c.py"]] ∧
    threeFiles.scan ⟨1,[]⟩ "*.py" (some 2) = .ok [["a.py"],["b.py"]] :=
  ⟨scan_threeFiles,((scan_limited threeFiles ⟨1,[]⟩ "*.py" 2).1 _ scan_threeFiles).1⟩

/-- The first file is found although none is asked for. -/
theorem scan_limited_zero : threeFiles.scan ⟨1,[]⟩ "*.py" none = .ok [["a.py"],["b.py"],["c.py"]] ∧
    threeFiles.scan ⟨1,[]⟩ "*.py" (some 0) = .ok [["a.py"]] := ⟨scan_threeFiles,by cbv⟩

end ApiDocs.Files
