import ApiDocs.Proofs.Files.Follow
import ApiDocs.Proofs.Text.Lines
import ApiDocs.Proofs.Text.Utf8

/-!
When a file can be written. Where the directory of a path stands, and the path leads to a file or to nothing yet, no
directory is made (`ensureDirectory_of_hasRoom`) and the file is taken (`write_of_hasRoom`).
-/
namespace ApiDocs.Files

/-- A code point that a path may hold: no null, and no surrogate but one that stands for a single octet. -/
def IsPathPoint (c : Nat) : Prop := c ≠ 0 ∧ (isSurrogate c = true → 0xDC80 ≤ c ∧ c ≤ 0xDCFF)

instance (c : Nat) : Decidable (IsPathPoint c) := inferInstanceAs (Decidable (_ ∧ _))

/-- There is room for a file: the path can be handed to the tree, its directory stands, and it leads to a file or to
    nothing yet. -/
structure HasRoom (fs : Files) (p : Path) : Prop where
  points : ∀ c ∈ p.toText, IsPathPoint c
  directory : fs.isDirectory p.parent = true
  free : (∃ place content, fs.followToWrite p = .node place (.file content)) ∨
    ∃ around name, fs.followToWrite p = .absent around name

/-! ### Spelling -/

theorem checkPath_of_points (null : Text) {p : Path} (points : ∀ c ∈ p.toText, IsPathPoint c) :
    checkPath null p = .ok () := by
  have single : Utf8.firstSurrogates? (p.toText.filter fun c => !(0xDC80 ≤ c && c ≤ 0xDCFF)) = none := by
    rw [Utf8.firstSurrogates?_eq_none,Text.IsEncodable,List.forall_mem_filter]
    intro c member other
    by_contra surrogate
    have octet := (points c member).2 (by simpa using surrogate)
    simp [octet] at other
  have noNull : ¬ p.toText.contains 0 = true := fun member =>
    (points 0 (List.contains_iff_mem.mp member)).1 rfl
  rw [checkPath,single]
  exact if_neg noNull

/-- A path holds what its names hold, and points and slashes. -/
theorem points_toText {p : Path} (names : ∀ name ∈ p.names, ∀ c ∈ name, IsPathPoint c) : ∀ c ∈ p.toText, IsPathPoint c := by
  have point : IsPathPoint 0x2E := ⟨by decide,by decide⟩
  have slash : IsPathPoint 0x2F := ⟨by decide,by decide⟩
  intro c member
  rw [Path.toText] at member
  split at member
  · rw [List.mem_singleton.mp member]
    exact point
  · rcases List.mem_append.mp member with front | back
    · rw [List.eq_of_mem_replicate front]
      exact slash
    · rcases Text.mem_of_mem_join back with between | ⟨name,among,own⟩
      · rw [List.mem_singleton.mp between]
        exact slash
      · exact names name among c own

theorem points_parent {p : Path} (points : ∀ c ∈ p.toText, IsPathPoint c) : ∀ c ∈ p.parent.toText, IsPathPoint c := by
  refine points_toText fun name among c own => points c ?_
  have member : name ∈ p.names := List.dropLast_subset _ among
  have full : ¬ (p.slashes = 0 ∧ p.names.isEmpty = true) := by
    rintro ⟨_,none⟩
    simp [List.isEmpty_iff.mp none] at member
  rw [Path.toText,if_neg full]
  exact List.mem_append_right _ (Text.mem_join_of_mem member own)

/-! ### Directories that stand -/

/-- A directory that stands is not made again. -/
theorem makeDirectory_of_isDirectory {fs : Files} {p : Path} (stands : fs.isDirectory p = true) :
    fs.makeDirectory p = .error .exists := by
  obtain ⟨place,entries,way⟩ := isDirectory_iff.mp stands
  rcases fs.follow_false p with same | ⟨place,target,link⟩
  · rw [makeDirectory,same,way]
  · rw [makeDirectory,link]

/-- Where a directory stands, the tree stays as it is. -/
theorem ensureDirectory_of_isDirectory {fs : Files} {p : Path} (allowed : checkPath (nullMessage "mkdir") p = .ok ())
    (stands : fs.isDirectory p = true) : fs.ensureDirectory p = (fs,.ok ()) := by
  rw [ensureDirectory,allowed]
  dsimp only
  rw [makeDirectories,makeDirectory_of_isDirectory stands]
  obtain ⟨place,entries,way⟩ := isDirectory_iff.mp stands
  simp [standing,way]

theorem ensureDirectory_of_hasRoom {fs : Files} {p : Path} (room : fs.HasRoom p) :
    fs.ensureDirectory p.parent = (fs,.ok ()) :=
  ensureDirectory_of_isDirectory (checkPath_of_points _ (points_parent room.points)) room.directory

/-- Where there is room for a file, it is taken. -/
theorem write_of_hasRoom {fs : Files} {p : Path} (room : fs.HasRoom p) (content : Bytes) :
    ∃ later, fs.write p content = .ok later := by
  rw [write,checkPath_of_points _ room.points]
  rcases room.free with ⟨place,old,way⟩ | ⟨around,name,way⟩
  · rw [way]
    exact ⟨_,rfl⟩
  · rw [way]
    exact ⟨_,rfl⟩

end ApiDocs.Files
