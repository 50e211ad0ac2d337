import ApiDocs.Files.Scan
import ApiDocs.Proofs.Files.Plain
import ApiDocs.Proofs.Result
import Mathlib.Data.List.Lattice

/-!
What a scan finds. An entry of a directory is found by what it is (`Files.findings_eq`), in the order of the names, and an
empty directory among them is of no account (`Files.collect_filter`). So a tree without links is scanned to the same places
when an empty directory or a file that does not match is put into it (`Files.matching_put`).
-/
namespace ApiDocs

/-! ### The order of names -/

namespace Text

theorem le_iff (a b : Text) : le a b = true ↔ List.le a b := by
  rw [le,Bool.not_eq_true']
  exact List.lex_eq_false_iff_ge

theorem le_trans {a b c : Text} (first : le a b = true) (second : le b c = true) : le a c = true :=
  (le_iff a c).mpr (List.le_trans ((le_iff a b).mp first) ((le_iff b c).mp second))

theorem le_total (a b : Text) : (le a b || le b a) = true := by
  rw [Bool.or_eq_true,le_iff,le_iff]
  exact List.le_total a b

theorem le_antisymm {a b : Text} (first : le a b = true) (second : le b a = true) : a = b :=
  List.le_antisymm ((le_iff a b).mp first) ((le_iff b a).mp second)

end Text

/-- Something is found: a file, or one below. -/
def Finding.isFilled : Finding → Bool
  | file => true
  | inside places => !places.isEmpty

namespace Files

open Node

/-! ### Directories -/

/-- When no name stands twice, what is sorted and then chosen is what is chosen and then sorted. -/
theorem mergeSort_filter {α : Type} {findings : List (Text × α)} (distinct : (findings.map (·.1)).Nodup)
    (p : Text × α → Bool) :
    (findings.filter p).mergeSort (fun a b => Text.le a.1 b.1) =
      (findings.mergeSort fun a b => Text.le a.1 b.1).filter p := by
  have sorted (l : List (Text × α)) : (l.mergeSort fun a b => Text.le a.1 b.1).Pairwise fun a b =>
      Text.le a.1 b.1 = true := by
    refine List.pairwise_mergeSort ?_ ?_ l
    · exact fun _ _ _ => Text.le_trans
    · exact fun a b => Text.le_total a.1 b.1
  have chosen := List.mergeSort_perm (findings.filter p) fun a b => Text.le a.1 b.1
  have all := (List.mergeSort_perm findings fun a b => Text.le a.1 b.1).filter p
  refine List.Perm.eq_of_pairwise ?_ (sorted _) ((sorted findings).filter p) (chosen.trans all.symm)
  intro a b first second before behind
  have here : a ∈ findings := List.mem_of_mem_filter (chosen.mem_iff.mp first)
  have there : b ∈ findings := List.mem_of_mem_filter (all.mem_iff.mp second)
  exact List.inj_on_of_nodup_map distinct here there (Text.le_antisymm before behind)

/-- A directory in which nothing is found is of no account. -/
theorem collect_filter (here : Place) {findings : List (Text × Finding)} (distinct : (findings.map (·.1)).Nodup) :
    collect here (findings.filter fun f => f.2.isFilled) = collect here findings := by
  rw [collect,mergeSort_filter distinct,collect]
  congr 1
  · rw [List.filterMap_filter]
    refine List.filterMap_congr fun (name,f) _ => ?_
    cases f <;> simp [Finding.isFilled]
  · generalize findings.mergeSort (fun a b => Text.le a.1 b.1) = sorted
    induction sorted with
    | nil => rfl
    | cons entry rest ih =>
      obtain ⟨name,f⟩ := entry
      cases f with
      | file => simpa [Finding.isFilled] using ih
      | inside places => cases places <;> simpa [Finding.isFilled] using ih

theorem mem_collect {here place : Place} {findings : List (Text × Finding)} (member : place ∈ collect here findings) :
    (∃ name, (name,.file) ∈ findings ∧ place = here ++ [name]) ∨
      ∃ name places, (name,.inside places) ∈ findings ∧ place ∈ places := by
  have kept := List.mergeSort_perm findings fun a b => Text.le a.1 b.1
  rw [collect,List.mem_append] at member
  rcases member with direct | below
  · obtain ⟨⟨name,f⟩,among,own⟩ := List.mem_filterMap.mp direct
    cases f with
    | file => exact .inl ⟨name,kept.mem_iff.mp among,(Option.some.inj own).symm⟩
    | inside places => cases own
  · obtain ⟨⟨name,f⟩,among,own⟩ := List.mem_flatMap.mp below
    cases f with
    | file => cases own
    | inside places => exact .inr ⟨name,places,kept.mem_iff.mp among,own⟩

/-- A directory of files in the order of their names is scanned in that order. -/
theorem collect_files (here : Place) (names : List Text) (sorted : names.Pairwise fun a b => Text.le a b = true) :
    collect here (names.map fun name => (name,.file)) = names.map fun name => here ++ [name] := by
  have kept : (names.map fun name => (name,Finding.file)).mergeSort (fun a b => Text.le a.1 b.1) =
      names.map fun name => (name,.file) :=
    List.mergeSort_of_pairwise (List.pairwise_map.mpr sorted)
  rw [collect,kept]
  simp [List.filterMap_map,List.flatMap_map]

/-! ### Trees -/

variable (fs : Files) (pattern : Text)

/-- What is found at an entry of a directory. -/
def finding? (here : Place) : Text × Node → Option (Text × Finding)
  | (name,.directory entries) =>
    if isIgnoredName name then none
    else some (name,.inside (fs.matching pattern (here ++ [name]) (.directory entries)))
  | (name,.file _) => if Glob.accepts pattern name then some (name,.file) else none
  | (name,.link _) =>
    if fs.isDirectory ⟨1,here ++ [name]⟩ then
      if isIgnoredName name then none else some (name,.inside [])
    else if Glob.accepts pattern name then some (name,.file) else none

theorem findings_eq (here : Place) (entries : List (Text × Node)) :
    fs.findings pattern here entries = entries.filterMap (fs.finding? pattern here) := by
  induction entries with
  | nil => simp only [findings,List.filterMap_nil]
  | cons entry rest ih =>
    obtain ⟨name,n⟩ := entry
    cases n <;> simp only [findings,ih,List.filterMap_cons,finding?,matching] <;> split_ifs <;> simp_all

theorem matching_directory (here : Place) (entries : List (Text × Node)) :
    fs.matching pattern here (.directory entries) = collect here (entries.filterMap (fs.finding? pattern here)) := by
  rw [← findings_eq]
  simp only [matching]

variable {fs pattern}

theorem finding?_name {here : Place} {entry : Text × Node} {f : Text × Finding}
    (found : fs.finding? pattern here entry = some f) : f.1 = entry.1 := by
  obtain ⟨name,n⟩ := entry
  cases n <;> simp only [finding?] at found <;> split_ifs at found <;> cases found <;> rfl

/-- What is found in a directory is found at an entry of the same name. -/
theorem mem_findings_iff (here : Place) (entries : List (Text × Node)) (name : Text) (f : Finding) :
    (name,f) ∈ entries.filterMap (fs.finding? pattern here) ↔
      ∃ n, (name,n) ∈ entries ∧ fs.finding? pattern here (name,n) = some (name,f) := by
  rw [List.mem_filterMap]
  constructor
  · rintro ⟨⟨other,n⟩,among,own⟩
    cases finding?_name own
    exact ⟨n,among,own⟩
  · rintro ⟨n,among,own⟩
    exact ⟨_,among,own⟩

/-- What is found inside an entry is what a scan of it finds, and the name of the entry is not ignored. -/
theorem finding?_inside {here : Place} {name : Text} {n : Node} {places : List Place}
    (found : fs.finding? pattern here (name,n) = some (name,.inside places)) :
    isIgnoredName name = false ∧ places = fs.matching pattern (here ++ [name]) n := by
  cases n with
  | file content =>
    simp only [finding?] at found
    split_ifs at found
    cases found
  | directory entries =>
    simp only [finding?] at found
    split_ifs at found with ignored
    cases found
    exact ⟨by simpa using ignored,rfl⟩
  | link target =>
    simp only [finding?] at found
    split_ifs at found with leads ignored <;> cases found
    exact ⟨by simpa using ignored,by simp only [matching]⟩

/-- No name is found twice that does not stand twice. -/
theorem distinct_findings (here : Place) {entries : List (Text × Node)} (distinct : (entries.map (·.1)).Nodup) :
    ((entries.filterMap (fs.finding? pattern here)).map (·.1)).Nodup := by
  refine distinct.sublist ?_
  induction entries with
  | nil => exact List.Sublist.refl _
  | cons entry rest ih =>
    rw [List.filterMap_cons]
    have later := ih (List.nodup_cons.mp distinct).2
    split
    · exact later.cons _
    · rename_i f found
      rw [List.map_cons,List.map_cons,finding?_name found]
      exact later.cons_cons _

/-- Without links a scan depends on nothing but the tree below. -/
theorem matching_congr {n : Node} (plain : n.IsPlain) (other : Files) (here : Place) :
    fs.matching pattern here n = other.matching pattern here n := by
  induction plain generalizing here with
  | file content => simp only [matching]
  | @directory entries _ inner ih =>
    rw [matching_directory,matching_directory]
    congr 1
    refine List.filterMap_congr fun (name,n) member => ?_
    cases inner _ member with
    | file content => rfl
    | directory distinct each => rw [finding?,finding?,ih _ member]

/-- Where a scan finds a place, there is a file with a name that matches. -/
theorem mem_matching {n : Node} (plain : n.IsPlain) {here place : Place} (member : place ∈ fs.matching pattern here n) :
    ∃ before name, place = here ++ (before ++ [name]) ∧ Glob.accepts pattern name = true ∧
      ∃ content, n.at? (before ++ [name]) = some (.file content) := by
  induction plain generalizing here with
  | file content =>
    simp only [matching] at member
    cases member
  | @directory entries distinct inner ih =>
    rw [matching_directory] at member
    rcases mem_collect member with ⟨name,found,rfl⟩ | ⟨name,places,found,below⟩
    · obtain ⟨n,among,own⟩ := (mem_findings_iff here entries name .file).mp found
      cases inner _ among with
      | file content =>
        simp only [finding?,Option.ite_none_right_eq_some] at own
        exact ⟨[],name,rfl,own.1,content,by rw [List.nil_append,at?,entry?_of_mem distinct among]; rfl⟩
      | directory _ _ =>
        simp only [finding?] at own
        split_ifs at own
        cases own
    · obtain ⟨n,among,own⟩ := (mem_findings_iff here entries name (.inside places)).mp found
      obtain ⟨_,rfl⟩ := finding?_inside own
      obtain ⟨before,last,rfl,fits,content,stands⟩ := ih _ among below
      refine ⟨name :: before,last,by simp,fits,content,?_⟩
      rw [List.cons_append,at?,entry?_of_mem distinct among]
      exact stands

/-- A leaf that a scan passes over: an empty directory where there is nothing, or a file whose name does not match. -/
def IsPassedOver (pattern : Text) (n : Node) (place : Place) (new : Node) : Prop :=
  (new = .emptyDirectory ∧ n.at? place = none) ∨
    ((∃ content, new = .file content) ∧ ∀ name, place.getLast? = some name → Glob.accepts pattern name = false)

theorem IsPassedOver.isPlain {n new : Node} {place : Place} (unseen : IsPassedOver pattern n place new) : new.IsPlain := by
  rcases unseen with ⟨rfl,_⟩ | ⟨⟨content,rfl⟩,_⟩
  · exact isPlain_emptyDirectory
  · exact .file content

theorem IsPassedOver.isLeaf {n new : Node} {place : Place} (unseen : IsPassedOver pattern n place new) :
    new.entries = [] := by
  rcases unseen with ⟨rfl,_⟩ | ⟨⟨content,rfl⟩,_⟩ <;> rfl

/-- It is passed over as well in the directory below. -/
theorem IsPassedOver.inside {entries : List (Text × Node)} {name : Text} {child new : Node} {rest : Place}
    (unseen : IsPassedOver pattern (.directory entries) (name :: rest) new)
    (found : Node.entry? (.directory entries) name = some child) : IsPassedOver pattern child rest new := by
  rcases unseen with ⟨made,absent⟩ | ⟨written,foreign⟩
  · rw [at?,found] at absent
    exact .inl ⟨made,absent⟩
  · refine .inr ⟨written,fun last own => foreign last ?_⟩
    rw [List.getLast?_cons,own]
    rfl

/-- A leaf that a scan passes over does not change what it finds. -/
theorem matching_put {n : Node} (plain : n.IsPlain) {place : Place} (accepts : n.Accepts place) {new : Node}
    (unseen : IsPassedOver pattern n place new) (here : Place) :
    fs.matching pattern here (n.put place new) = fs.matching pattern here n := by
  induction accepts generalizing here with
  | file content =>
    rcases unseen with ⟨_,none⟩ | ⟨⟨content,rfl⟩,_⟩
    · cases none
    · simp only [put,matching]
  | @absent entries name absent =>
    cases plain with
    | directory distinct inner =>
      have later := (Node.IsPlain.directory distinct inner).put (.absent absent) unseen.isPlain
      rw [put_absent absent,bind_absent absent] at later ⊢
      cases later with
      | directory distinctLater _ =>
        rw [matching_directory,matching_directory,← collect_filter here (distinct_findings here distinctLater),
          ← collect_filter here (distinct_findings here distinct)]
        have none : (([(name,new)].filterMap (fs.finding? pattern here)).filter fun f => f.2.isFilled) = [] := by
          rcases unseen with ⟨rfl,_⟩ | ⟨⟨content,rfl⟩,foreign⟩
          · have nothing : fs.matching pattern (here ++ [name]) (.directory []) = [] := by
              rw [matching_directory]
              simp [collect]
            simp only [emptyDirectory,List.filterMap_cons,finding?,nothing,List.filterMap_nil]
            split_ifs <;> rfl
          · simp [finding?,foreign name rfl]
        rw [List.filterMap_append,List.filter_append,none,List.append_nil]
  | @inside entries name child rest found inner ih =>
    cases plain with
    | directory distinct each =>
      rw [put_cons found]
      have below := unseen.inside found
      have same : fs.finding? pattern here (name,child.put rest new) = fs.finding? pattern here (name,child) := by
        cases each _ (mem_of_entry found) with
        | file content =>
          cases inner
          rcases below with ⟨_,none⟩ | ⟨⟨content,rfl⟩,_⟩
          · cases none
          · rfl
        | directory distinct each =>
          obtain ⟨more,put⟩ := inner.put_directory new
          have scanned := ih (.directory distinct each) below (here ++ [name])
          rw [put] at scanned ⊢
          rw [finding?,finding?,scanned]
      obtain ⟨before,after,rfl,bound⟩ := bind_found found
      rw [bound,matching_directory,matching_directory,List.filterMap_append,List.filterMap_append,List.filterMap_cons,
        List.filterMap_cons,same]

/-- Nor does it change what a scan finds below any other place. -/
theorem exists_matching_put {n m : Node} (plain : n.IsPlain) {place : Place} (accepts : n.Accepts place) {new : Node}
    (unseen : IsPassedOver pattern n place new) {other : Place} (found : n.at? other = some m) :
    ∃ more, (n.put place new).at? other = some more ∧
      ∀ here, fs.matching pattern here more = fs.matching pattern here m := by
  induction other generalizing n place with
  | nil =>
    cases found
    exact ⟨_,rfl,matching_put plain accepts unseen⟩
  | cons first rest ih =>
    obtain ⟨child,own,inner⟩ := Option.bind_eq_some_iff.mp found
    cases accepts with
    | file content => cases own
    | @absent entries name absent =>
      have elsewhere : name ≠ first := by
        rintro rfl
        cases absent.symm.trans own
      rw [put_absent absent,at?,entry?_bind,if_neg elsewhere,own]
      exact ⟨m,inner,fun _ => rfl⟩
    | @inside entries name next more before accepts =>
      rw [put_cons before,at?,entry?_bind]
      by_cases same : name = first
      · cases same
        cases before.symm.trans own
        cases plain with
        | directory distinct each =>
          rw [if_pos rfl]
          exact ih (each _ (mem_of_entry own)) accepts (unseen.inside own) inner
      · rw [if_neg same,own]
        exact ⟨m,inner,fun _ => rfl⟩

theorem exists_of_mem_resolveSome {matched places : List Place} (run : fs.resolveSome none matched = .ok places)
    {place : Place} (member : place ∈ places) : ∃ found ∈ matched, fs.resolve ⟨1,found⟩ = .ok place := by
  induction matched generalizing places with
  | nil =>
    cases run
    cases member
  | cons first rest ih =>
    rw [resolveSome] at run
    split at run
    · cases run
    · rename_i other resolved
      obtain ⟨more,later,rfl⟩ := map_eq_ok run
      rcases List.mem_cons.mp member with rfl | among
      · exact ⟨first,List.mem_cons_self,resolved⟩
      · obtain ⟨found,inside,own⟩ := ih later among
        exact ⟨found,List.mem_cons_of_mem first inside,own⟩

end Files

end ApiDocs
