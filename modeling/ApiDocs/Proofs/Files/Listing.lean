import ApiDocs.Proofs.Files.Glob
import ApiDocs.Proofs.Files.Room
import ApiDocs.Proofs.Files.Scan
import Mathlib.Data.List.Permutation

/-!
What a scan lists, whatever links there are. An entry below a directory is listed when it counts as a file, the pattern
matches its name, and no directory on the way has an ignored name (`Files.mem_matching_iff`). The entries come in one order
that is told by their names (`Files.pairwise_matching`), so a scan is settled by what it lists
(`Place.eq_of_pairwise_precedes`).
-/
namespace ApiDocs

/-! ### The order of a scan -/

namespace Place

/-- The order of a scan. Of two places that part in a directory the files come first, by their names, and then what is
    inside the directories in it, by the names of these. -/
inductive Precedes : Place → Place → Prop
  | files {a b : Text} (before : Text.le a b = true) (other : a ≠ b) : Precedes [a] [b]
  | fileFirst (a b c : Text) (q : Place) : Precedes [a] (b :: c :: q)
  | directories {a b : Text} (before : Text.le a b = true) (other : a ≠ b) (c d : Text) (p q : Place) :
    Precedes (a :: c :: p) (b :: d :: q)
  | inside (a : Text) {p q : Place} (below : Precedes p q) : Precedes (a :: p) (a :: q)

namespace Precedes

variable {p q : Place}

theorem ne_nil (first : Precedes p q) : p ≠ [] ∧ q ≠ [] := by
  cases first <;> exact ⟨List.cons_ne_nil _ _,List.cons_ne_nil _ _⟩

/-- Of two places at most one comes first. -/
theorem asymm (first : Precedes p q) : ¬ Precedes q p := by
  induction first with
  | files before other =>
    rintro (⟨behind,_⟩ | _ | _ | ⟨_,none⟩)
    · exact other (Text.le_antisymm before behind)
    · exact none.ne_nil.1 rfl
  | fileFirst a b c q =>
    rintro (_ | _ | _ | ⟨_,none⟩)
    exact none.ne_nil.2 rfl
  | directories before other c d p q =>
    rintro (_ | _ | ⟨behind,_⟩ | _)
    · exact other (Text.le_antisymm before behind)
    · exact other rfl
  | inside a below ih =>
    rintro (⟨_,same⟩ | _ | ⟨_,same⟩ | ⟨_,behind⟩)
    · exact same rfl
    · exact below.ne_nil.2 rfl
    · exact same rfl
    · exact ih behind

theorem ne (first : Precedes p q) : p ≠ q := by
  rintro rfl
  exact first.asymm first

/-- The order is the same seen from farther up. -/
theorem append (first : Precedes p q) (here : Place) : Precedes (here ++ p) (here ++ q) := by
  induction here with
  | nil => exact first
  | cons name rest ih => exact .inside name ih

end Precedes

/-- Places in the order of a scan are told by which they are. -/
theorem eq_of_pairwise_precedes {places others : List Place} (sorted : places.Pairwise Precedes)
    (otherSorted : others.Pairwise Precedes) (same : ∀ place, place ∈ places ↔ place ∈ others) : places = others := by
  have distinct : places.Nodup := sorted.imp Precedes.ne
  have otherDistinct : others.Nodup := otherSorted.imp Precedes.ne
  refine List.Perm.eq_of_pairwise ?_ sorted otherSorted ((List.perm_ext_iff_of_nodup distinct otherDistinct).mpr same)
  exact fun _ _ _ _ first second => absurd second first.asymm

end Place

/-! ### Trees of a file system -/

namespace Node

/-- A tree of a file system: in a directory no name stands twice, and each of them can stand in a path. -/
inductive IsSound : Node → Prop
  | file (content : Bytes) : IsSound (file content)
  | link (target : Text) : IsSound (link target)
  | directory {entries : List (Text × Node)} (distinct : (entries.map (·.1)).Nodup)
    (spelled : ∀ entry ∈ entries, Files.IsName entry.1 ∧ ∀ c ∈ entry.1, Files.IsPathPoint c)
    (inner : ∀ entry ∈ entries, IsSound entry.2) : IsSound (directory entries)

namespace IsSound

variable {n m : Node} {place : Place}

theorem at? (sound : n.IsSound) (found : n.at? place = some m) : m.IsSound := by
  induction place generalizing n with
  | nil => exact Option.some.inj found ▸ sound
  | cons name rest ih =>
    obtain ⟨child,own,inner⟩ := Option.bind_eq_some_iff.mp found
    cases sound with
    | directory distinct spelled each => exact ih (each _ (mem_of_entry own)) inner
    | _ => cases own

/-- Where something stands, the names on the way can stand in a path. -/
theorem spelled (sound : n.IsSound) (found : n.at? place = some m) :
    ∀ name ∈ place, Files.IsName name ∧ ∀ c ∈ name, Files.IsPathPoint c := by
  induction place generalizing n with
  | nil => simp
  | cons name rest ih =>
    obtain ⟨child,own,inner⟩ := Option.bind_eq_some_iff.mp found
    cases sound with
    | directory distinct spelled each =>
      exact List.forall_mem_cons.mpr ⟨spelled _ (mem_of_entry own),ih (each _ (mem_of_entry own)) inner⟩
    | _ => cases own

end IsSound

end Node

namespace Files

open Node

/-! ### What is listed -/

/-- What counts as a file: a file, or a link that does not lead to a directory. -/
inductive CountsAsFile (fs : Files) (place : Place) : Node → Prop
  | file (content : Bytes) : CountsAsFile fs place (.file content)
  | link {target : Text} (leads : fs.isDirectory ⟨1,place⟩ = false) : CountsAsFile fs place (.link target)

/-- An entry below a directory is listed: it counts as a file, the pattern matches its name, and none of the directories
    between them has an ignored name. -/
def Lists (fs : Files) (pattern : Text) (here : Place) (n : Node) (place : Place) : Prop :=
  ∃ before name entry, place = here ++ (before ++ [name]) ∧ n.at? (before ++ [name]) = some entry ∧
    fs.CountsAsFile place entry ∧ Glob.Matches (Glob.parts pattern) name ∧
    ∀ directory ∈ before, isIgnoredName directory = false

variable {fs : Files} {pattern : Text}

theorem finding?_file_iff (here : Place) (name : Text) (n : Node) :
    fs.finding? pattern here (name,n) = some (name,.file) ↔
      fs.CountsAsFile (here ++ [name]) n ∧ Glob.Matches (Glob.parts pattern) name := by
  rw [← Glob.accepts_iff]
  cases n with
  | file content => simpa [finding?] using fun _ => CountsAsFile.file content
  | directory entries =>
    constructor
    · intro found
      simp only [finding?] at found
      split_ifs at found
      cases found
    · rintro ⟨⟨⟩,_⟩
  | link target =>
    simp only [finding?]
    constructor
    · intro found
      split_ifs at found with leads ignored fits
      · cases found
      · exact ⟨.link (by simpa using leads),fits⟩
    · rintro ⟨⟨⟩ | ⟨leads⟩,fits⟩
      simp [leads,fits]

theorem mem_collect_iff (here place : Place) (findings : List (Text × Finding)) :
    place ∈ collect here findings ↔ (∃ name, (name,.file) ∈ findings ∧ place = here ++ [name]) ∨
      ∃ name places, (name,.inside places) ∈ findings ∧ place ∈ places := by
  refine ⟨mem_collect,fun found => ?_⟩
  have kept := List.mergeSort_perm findings fun a b => Text.le a.1 b.1
  rw [collect,List.mem_append]
  rcases found with ⟨name,among,rfl⟩ | ⟨name,places,among,member⟩
  · exact .inl (List.mem_filterMap.mpr ⟨_,kept.mem_iff.mpr among,rfl⟩)
  · exact .inr (List.mem_flatMap.mpr ⟨_,kept.mem_iff.mpr among,member⟩)

/-- What is listed stands below. -/
theorem Lists.exists_below {here : Place} {n : Node} {place : Place} (lists : fs.Lists pattern here n place) :
    ∃ first rest, place = here ++ first :: rest := by
  obtain ⟨before,name,entry,rfl,_⟩ := lists
  cases before with
  | nil => exact ⟨name,[],rfl⟩
  | cons first more => exact ⟨first,more ++ [name],rfl⟩

/-- Nothing stands below what is no directory. -/
theorem not_lists_leaf {n : Node} (leaf : n.entries = []) (here place : Place) : ¬ fs.Lists pattern here n place := by
  rintro ⟨before,name,entry,_,found,_⟩
  have nothing := kindAt?_leaf leaf (before ++ [name])
  rw [kindAt?,found] at nothing
  simp at nothing

/-- What is listed in a directory: its own entries, and what is listed in the directories in it that are not ignored. -/
theorem lists_directory {entries : List (Text × Node)} (distinct : (entries.map (·.1)).Nodup) (here place : Place) :
    fs.Lists pattern here (.directory entries) place ↔
      (∃ name n, (name,n) ∈ entries ∧ place = here ++ [name] ∧ fs.CountsAsFile place n ∧
        Glob.Matches (Glob.parts pattern) name) ∨
      ∃ name n, (name,n) ∈ entries ∧ isIgnoredName name = false ∧ fs.Lists pattern (here ++ [name]) n place := by
  constructor
  · rintro ⟨before,name,entry,own,found,counts,fits,passed⟩
    cases before with
    | nil =>
      have stands := (at?_entry (rfl : (Node.directory entries).at? [] = _) name).symm.trans found
      exact .inl ⟨name,entry,mem_of_entry stands,own,counts,fits⟩
    | cons first rest =>
      obtain ⟨child,stands,inner⟩ := Option.bind_eq_some_iff.mp found
      obtain ⟨kept,others⟩ := List.forall_mem_cons.mp passed
      exact .inr ⟨first,child,mem_of_entry stands,kept,rest,name,entry,by simp [own],inner,counts,fits,others⟩
  · rintro (⟨name,n,member,own,counts,fits⟩ | ⟨first,n,member,kept,before,name,entry,own,found,counts,fits,others⟩)
    · refine ⟨[],name,n,own,?_,counts,fits,by simp⟩
      exact (at?_entry (rfl : (Node.directory entries).at? [] = _) name).trans (entry?_of_mem distinct member)
    · refine ⟨first :: before,name,entry,by simp [own],?_,counts,fits,List.forall_mem_cons.mpr ⟨kept,others⟩⟩
      rw [List.cons_append,Node.at?,entry?_of_mem distinct member]
      exact found

/-- A scan of a node finds what is listed below it. -/
theorem mem_matching_iff {n : Node} (sound : n.IsSound) (here place : Place) :
    place ∈ fs.matching pattern here n ↔ fs.Lists pattern here n place := by
  induction sound generalizing here with
  | file content => simp [matching,not_lists_leaf (rfl : (Node.file content).entries = [])]
  | link target => simp [matching,not_lists_leaf (rfl : (Node.link target).entries = [])]
  | @directory entries distinct _ inner ih =>
    rw [matching_directory,mem_collect_iff,lists_directory distinct]
    simp only [mem_findings_iff]
    refine or_congr ⟨?_,?_⟩ ⟨?_,?_⟩
    · rintro ⟨name,⟨n,among,own⟩,rfl⟩
      obtain ⟨counts,fits⟩ := (finding?_file_iff here name n).mp own
      exact ⟨name,n,among,rfl,counts,fits⟩
    · rintro ⟨name,n,among,rfl,counts,fits⟩
      exact ⟨name,⟨n,among,(finding?_file_iff here name n).mpr ⟨counts,fits⟩⟩,rfl⟩
    · rintro ⟨name,places,⟨n,among,own⟩,below⟩
      obtain ⟨kept,rfl⟩ := finding?_inside own
      exact ⟨name,n,among,kept,(ih _ among _).mp below⟩
    · rintro ⟨name,n,among,kept,below⟩
      cases n with
      | directory more => exact ⟨name,_,⟨_,among,by simp [finding?,kept]⟩,(ih _ among _).mpr below⟩
      | _ => exact absurd below (not_lists_leaf rfl _ _)

/-! ### The order of what is listed -/

/-- The findings of a directory are collected in the order of a scan. -/
theorem pairwise_collect (here : Place) {findings : List (Text × Finding)} (distinct : (findings.map (·.1)).Nodup)
    (inner : ∀ name places, (name,.inside places) ∈ findings → places.Pairwise Place.Precedes ∧
      ∀ place ∈ places, ∃ first rest, place = here ++ name :: first :: rest) :
    (collect here findings).Pairwise Place.Precedes := by
  have kept := List.mergeSort_perm findings fun a b => Text.le a.1 b.1
  have sorted : (findings.mergeSort fun a b => Text.le a.1 b.1).Pairwise fun a b => Text.le a.1 b.1 = true ∧ a.1 ≠ b.1 := by
    have others := (kept.map (·.1)).nodup_iff.mpr distinct
    refine (List.pairwise_mergeSort ?_ ?_ findings).and (List.pairwise_map.mp others)
    · exact fun _ _ _ => Text.le_trans
    · exact fun a b => Text.le_total a.1 b.1
  have inside {name : Text} {places : List Place}
      (member : (name,Finding.inside places) ∈ findings.mergeSort fun a b => Text.le a.1 b.1) :=
    inner name places (kept.mem_iff.mp member)
  rw [collect,List.pairwise_append]
  refine ⟨?_,?_,?_⟩
  · rw [List.pairwise_filterMap]
    refine sorted.imp ?_
    rintro ⟨a,_ | _⟩ ⟨b,_ | _⟩ ⟨before,other⟩ _ ⟨⟩ _ ⟨⟩
    exact (Place.Precedes.files before other).append here
  · rw [List.pairwise_flatMap]
    constructor
    · rintro ⟨name,_ | places⟩ member
      · exact .nil
      · exact (inside member).1
    · refine sorted.imp_of_mem ?_
      rintro ⟨a,_ | places⟩ ⟨b,_ | others⟩ first second ⟨before,other⟩ place among next amongOthers
      iterate 3 contradiction
      obtain ⟨c,p,rfl⟩ := (inside first).2 place among
      obtain ⟨d,q,rfl⟩ := (inside second).2 next amongOthers
      exact (Place.Precedes.directories before other c d p q).append here
  · intro place direct next below
    obtain ⟨⟨a,_ | _⟩,_,⟨⟩⟩ := List.mem_filterMap.mp direct
    obtain ⟨⟨b,_ | places⟩,member,among⟩ := List.mem_flatMap.mp below
    · cases among
    · obtain ⟨c,q,rfl⟩ := (inside member).2 next among
      exact (Place.Precedes.fileFirst a b c q).append here

/-- A scan finds everything in the order of a scan. -/
theorem pairwise_matching {n : Node} (sound : n.IsSound) (here : Place) :
    (fs.matching pattern here n).Pairwise Place.Precedes := by
  induction sound generalizing here with
  | file content => simp [matching]
  | link target => simp [matching]
  | @directory entries distinct _ inner ih =>
    rw [matching_directory]
    refine pairwise_collect here (distinct_findings here distinct) fun name places found => ?_
    obtain ⟨n,among,own⟩ := (mem_findings_iff here entries name (.inside places)).mp found
    obtain ⟨_,rfl⟩ := finding?_inside own
    refine ⟨ih _ among _,fun place member => ?_⟩
    obtain ⟨first,rest,rfl⟩ := ((mem_matching_iff (inner _ among) _ _).mp member).exists_below
    exact ⟨first,rest,by simp⟩

end Files

end ApiDocs
