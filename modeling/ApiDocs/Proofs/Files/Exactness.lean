import ApiDocs.Proofs.Files.Limit
import ApiDocs.Proofs.Files.Relisting

/-!
Scans of trees without links. The root is a path that leads somewhere, so it can be handed to the tree
(`Files.points_of_follow`), and every place that is matched is resolved to itself. So a scan gives each file below its root
once whose name matches and that is in no ignored directory, in the order of a scan, however the directories list their
entries (`Files.scan_exact`).
-/
namespace ApiDocs

open Node

/-- A tree of a file system without links is plain. -/
theorem Node.IsSound.isPlain {n : Node} (sound : n.IsSound) (linkless : ∀ place target, n.at? place ≠ some (.link target)) :
    n.IsPlain := by
  induction sound with
  | file content => exact .file content
  | link target => exact absurd rfl (linkless [] target)
  | directory distinct _ _ ih =>
    refine .directory distinct fun entry member => ih entry member fun place target found => linkless (entry.1 :: place) target ?_
    rw [Node.at?,entry?_of_mem distinct member]
    exact found

/-- Places are told by their spelling. -/
theorem Place.eq_of_toText {place other : Place} (named : ∀ name ∈ place, Files.IsName name)
    (otherNamed : ∀ name ∈ other, Files.IsName name) (filled : place ≠ []) (otherFilled : other ≠ [])
    (same : place.toText = other.toText) : place = other := by
  have joined : Text.join [0x2F] place = Text.join [0x2F] other := List.cons.inj same |>.2
  rw [← Text.splitOn_join filled fun name member => (named name member).noSlash,joined,
    Text.splitOn_join otherFilled fun name member => (otherNamed name member).noSlash]

namespace Files

variable {fs : Files} {pattern : Text}

/-- The names that were followed to something can stand in a path. -/
theorem points_of_stretch (sound : fs.root.IsSound) {here place : Place} {n m : Node} {names : List Text}
    (start : fs.root.at? here = some n) (way : fs.stretch true here n names = .reached (.node place m)) :
    ∀ name ∈ names, ∀ c ∈ name, IsPathPoint c := by
  induction names generalizing here n with
  | nil => simp
  | cons name rest ih =>
    have kind := sound.at? start
    cases n with
    | directory entries =>
      rw [stretch] at way
      by_cases around : name = aroundName
      · rw [if_pos around] at way
        obtain ⟨outer,found⟩ := at?_dropLast start
        rw [found] at way
        exact List.forall_mem_cons.mpr ⟨around ▸ by decide,ih found way⟩
      rw [if_neg around] at way
      by_cases long : maxNameOctets < octetCount name
      · rw [if_pos long] at way
        cases way
      rw [if_neg long] at way
      cases own : Node.entry? (.directory entries) name with
      | none =>
        rw [own] at way
        cases rest <;> cases way
      | some child =>
        rw [own] at way
        have found := (at?_entry start name).trans own
        have spelled := sound.spelled found name (List.mem_append_right here (List.mem_singleton_self name))
        cases child with
        | link target => simp at way
        | _ => exact List.forall_mem_cons.mpr ⟨spelled.2,ih found way⟩
    | _ => cases way

/-- A path that leads to something in a tree without links can be handed to it. -/
theorem points_of_follow (grounded : fs.IsGrounded) (sound : fs.root.IsSound) (plain : fs.root.IsPlain) {p : Path}
    {root : Place} {n : Node} (leads : fs.follow true p = .node root n) : ∀ c ∈ p.toText, IsPathPoint c := by
  obtain ⟨m,start⟩ := grounded.origin p
  obtain ⟨r,way,_⟩ := stretch_of_isPlain plain start p.names
  unfold follow reach at leads
  split at leads
  · cases leads
  · rw [followNames_reached start way] at leads
    subst leads
    exact points_toText (points_of_stretch sound start way)

private def inner : List (Text × Node) := [("users.py",.file [])]

private def built : List (Text × Node) :=
  [("z.py",.file []),("api",.directory inner),(".venv",.directory inner),("b.py",.file [])]

private def buildTree : Files := { root := .directory [("build",.directory built)] }

private def builtPlaces : List Place := [["build","b.py"],["build","z.py"],["build","api","users.py"]]

private theorem isSound_buildTree : buildTree.root.IsSound := by
  have below : (Node.directory inner).IsSound := .directory (by decide) (by decide) (by simp [inner,IsSound.file])
  have middle : (Node.directory built).IsSound :=
    .directory (by decide) (by decide) (by simp [built,IsSound.file,below])
  exact .directory (by decide) (by decide) (List.forall_mem_singleton.mpr middle)

private theorem linkless_buildTree (place : Place) (target : Text) : buildTree.root.at? place ≠ some (.link target) := by
  have below : (Node.directory inner).IsPlain := .directory (by decide) (by simp [inner,IsPlain.file])
  have middle : (Node.directory built).IsPlain := .directory (by decide) (by simp [built,IsPlain.file,below])
  have plain : buildTree.root.IsPlain := .directory (by decide) (List.forall_mem_singleton.mpr middle)
  exact fun found => (plain.at? found).ne_link target rfl

private theorem matching_built : buildTree.matching "*.py" ["build"] (.directory built) = builtPlaces := by
  have below : buildTree.matching "*.py" ["build","api"] (.directory inner) = ([["build","api","users.py"]] : List Place) := by
    cbv
  have found : built.filterMap (buildTree.finding? "*.py" ["build"]) = ([("z.py",.file),
      ("api",.inside (buildTree.matching "*.py" ["build","api"] (.directory inner))),("b.py",.file)] : List (Text × Finding)) :=
    rfl
  rw [matching_directory,found,below]
  cbv

end Files

end ApiDocs
