import ApiDocs.Proofs.Files.Resolving
import Mathlib.Data.List.Perm.Basic

/-!
Trees whose directories list their entries in another order. The same stands at every place of them
(`Node.Relisted.sound_alike`), so paths lead to the same places (`Files.follow_alike`) and are resolved to the same ones
(`Files.resolve_alike`), and a scan gives the same (`Node.Relisted.scan_eq`).
-/
namespace ApiDocs

namespace Node

/-- Two trees differ at most in the order in which their directories list the entries. -/
inductive Relisted : Node → Node → Prop
  | refl (n : Node) : Relisted n n
  | trans {n m l : Node} (first : Relisted n m) (second : Relisted m l) : Relisted n l
  | reorder {entries others : List (Text × Node)} (order : entries.Perm others) : Relisted (directory entries) (directory others)
  | inside (before after : List (Text × Node)) (name : Text) {n m : Node} (inner : Relisted n m) :
    Relisted (directory (before ++ (name,n) :: after)) (directory (before ++ (name,m) :: after))

/-- The same stands at every place of two trees. -/
def Alike (n m : Node) : Prop := ∀ place, n.kindAt? place = m.kindAt? place

namespace Alike

variable {n m : Node}

theorem kind (alike : n.Alike m) : n.kind = m.kind := Option.some.inj (alike [])

/-- At every place there is nothing in both trees, or something alike. -/
theorem at? (alike : n.Alike m) (place : Place) :
    (n.at? place = none ∧ m.at? place = none) ∨
      ∃ a b, n.at? place = some a ∧ m.at? place = some b ∧ a.Alike b := by
  have same := alike place
  unfold kindAt? at same
  cases here : n.at? place with
  | none =>
    rw [here,Option.map_none,eq_comm,Option.map_eq_none_iff] at same
    exact .inl ⟨rfl,same⟩
  | some a =>
    rw [here,Option.map_some,eq_comm,Option.map_eq_some_iff] at same
    obtain ⟨b,there,_⟩ := same
    refine .inr ⟨a,b,rfl,there,fun below => ?_⟩
    have further := alike (place ++ below)
    unfold kindAt? at further ⊢
    rwa [at?_append,at?_append,here,there] at further

theorem entry? (alike : n.Alike m) (name : Text) :
    (n.entry? name = none ∧ m.entry? name = none) ∨
      ∃ a b, n.entry? name = some a ∧ m.entry? name = some b ∧ a.Alike b := by
  have single (n : Node) : n.at? [name] = n.entry? name := at?_concat n [] name
  have here := alike.at? [name]
  rwa [single,single] at here

theorem getD_at? (alike : n.Alike m) (place : Place) : ((n.at? place).getD default).Alike ((m.at? place).getD default) := by
  rcases alike.at? place with ⟨here,there⟩ | ⟨a,b,here,there,below⟩
  · rw [here,there]
    exact fun _ => rfl
  · rw [here,there]
    exact below

theorem symm (alike : n.Alike m) : m.Alike n := fun place => (alike place).symm

end Alike

/-! ### Listings -/

theorem entry?_perm {entries others : List (Text × Node)} (order : entries.Perm others)
    (distinct : (entries.map (·.1)).Nodup) (name : Text) :
    Node.entry? (directory entries) name = Node.entry? (directory others) name := by
  have otherDistinct : (others.map (·.1)).Nodup := (order.map (·.1)).nodup_iff.mp distinct
  cases own : Node.entry? (directory entries) name with
  | some child => exact (entry?_of_mem otherDistinct (order.mem_iff.mp (mem_of_entry own))).symm
  | none =>
    cases other : Node.entry? (directory others) name with
    | none => rfl
    | some child => cases own.symm.trans (entry?_of_mem distinct (order.mem_iff.mpr (mem_of_entry other)))

/-- The weight of entries does not depend on their order. -/
theorem entriesWeight_perm {entries others : List (Text × Node)} (order : entries.Perm others) :
    entriesWeight entries = entriesWeight others := by
  induction order with
  | nil => rfl
  | cons entry _ ih =>
    obtain ⟨name,n⟩ := entry
    rw [entriesWeight,entriesWeight,ih]
  | swap entry other rest =>
    obtain ⟨name,n⟩ := entry
    obtain ⟨second,m⟩ := other
    simp only [entriesWeight]
    omega
  | trans _ _ first second => exact first.trans second

namespace Relisted

variable {n m : Node}

/-- Trees of a file system stay such trees, with the same at every place, and with links of the same weight. -/
theorem sound_alike (same : n.Relisted m) (sound : n.IsSound) :
    m.IsSound ∧ n.Alike m ∧ n.linkWeight = m.linkWeight := by
  induction same with
  | refl n => exact ⟨sound,fun _ => rfl,rfl⟩
  | trans _ _ ih again =>
    obtain ⟨mid,alike,weight⟩ := ih sound
    obtain ⟨last,further,more⟩ := again mid
    exact ⟨last,fun place => (alike place).trans (further place),weight.trans more⟩
  | @reorder entries others order =>
    cases sound with
    | directory distinct spelled inner =>
      refine ⟨?_,?_,?_⟩
      · exact .directory ((order.map (·.1)).nodup_iff.mp distinct) (fun entry member => spelled entry (order.mem_iff.mpr member))
          fun entry member => inner entry (order.mem_iff.mpr member)
      · rintro (_ | ⟨name,rest⟩)
        · rfl
        · rw [kindAt?,kindAt?,Node.at?,Node.at?,entry?_perm order distinct]
      · rw [linkWeight,linkWeight,entriesWeight_perm order]
  | @inside before after name n m _ ih =>
    cases sound with
    | directory distinct spelled inner =>
      simp only [List.forall_mem_append,List.forall_mem_cons] at spelled inner
      obtain ⟨child,alike,weight⟩ := ih inner.2.1
      have others : ((before ++ (name,m) :: after).map (·.1)).Nodup := by simpa using distinct
      refine ⟨.directory others ?_ ?_,?_,?_⟩
      · simpa only [List.forall_mem_append,List.forall_mem_cons] using spelled
      · simpa only [List.forall_mem_append,List.forall_mem_cons] using ⟨inner.1,child,inner.2.2⟩
      · rintro (_ | ⟨first,rest⟩)
        · rfl
        · rw [kindAt?,kindAt?,Node.at?,Node.at?]
          by_cases own : first = name
          · subst own
            have here : (first,n) ∈ before ++ (first,n) :: after := List.mem_append_right before List.mem_cons_self
            have there : (first,m) ∈ before ++ (first,m) :: after := List.mem_append_right before List.mem_cons_self
            rw [entry?_of_mem distinct here,entry?_of_mem others there]
            exact alike rest
          · have elsewhere : Node.entry? (directory (before ++ (name,n) :: after)) first =
                Node.entry? (directory (before ++ (name,m) :: after)) first := by
              simp [Node.entry?,Node.entries,Ne.symm own]
            rw [elsewhere]
      · rw [linkWeight,linkWeight,entriesWeight_perm List.perm_middle,entriesWeight_perm List.perm_middle,entriesWeight,
          entriesWeight,weight]

end Relisted

end Node

/-! ### Following and resolving -/

/-- The same is reached, or nodes where the same stands. -/
def Reached.Alike : Reached → Reached → Prop
  | node place n, node other m => place = other ∧ n.Alike m
  | absent around name, absent other last => around = other ∧ name = last
  | nowhere f, nowhere g => f = g
  | _, _ => False

namespace Reached.Alike

variable {r s : Reached}

/-- Nodes are reached at the same place where the same stands, or none in either way. -/
theorem node_or (alike : r.Alike s) : (∃ place n m, r = .node place n ∧ s = .node place m ∧ n.Alike m) ∨
    (∀ place n, r ≠ .node place n) ∧ ∀ place n, s ≠ .node place n := by
  cases r with
  | node place n =>
    cases s with
    | node other m =>
      obtain ⟨rfl,inner⟩ := alike
      exact .inl ⟨place,n,m,rfl,rfl,inner⟩
    | _ => exact alike.elim
  | _ =>
    cases s with
    | node other m => exact alike.elim
    | _ => exact .inr ⟨by rintro _ _ ⟨⟩,by rintro _ _ ⟨⟩⟩

theorem asked (alike : r.Alike s) (forDirectory : Bool) : (r.asked forDirectory).Alike (s.asked forDirectory) := by
  cases forDirectory with
  | false => exact alike
  | true =>
    cases r with
    | node place n =>
      cases s with
      | node other m =>
        have kind := alike.2.kind
        cases n <;> cases m <;> cases kind
        · rfl
        · rfl
        · exact alike
      | _ => exact alike.elim
    | absent around name =>
      cases s with
      | absent other last => rfl
      | _ => exact alike.elim
    | nowhere f =>
      cases s with
      | nowhere g => exact alike
      | _ => exact alike.elim

theorem eq_nowhere_iff (alike : r.Alike s) (f : FileFault) : r = .nowhere f ↔ s = .nowhere f := by
  cases r <;> cases s <;> simp only [Reached.Alike] at alike <;> simp [alike]

end Reached.Alike

/-- The same is reached up to the first link. -/
def Stretch.Alike : Stretch → Stretch → Prop
  | reached r, reached s => r.Alike s
  | link around target rest, link other way more => around = other ∧ target = way ∧ rest = more
  | _, _ => False

namespace Files

open Node

/-- Two trees have the same at every place, links of the same weight, and the same working directory. -/
structure Alike (fs other : Files) : Prop where
  root : fs.root.Alike other.root
  weight : fs.root.linkWeight = other.root.linkWeight
  working : fs.working = other.working

variable {fs other : Files}

theorem stretch_alike (alike : fs.root.Alike other.root) (followLast : Bool) {here : Place} {n m : Node} (below : n.Alike m)
    (names : List Text) : (fs.stretch followLast here n names).Alike (other.stretch followLast here m names) := by
  induction names generalizing here n m with
  | nil => exact ⟨rfl,below⟩
  | cons name rest ih =>
    cases n with
    | file content =>
      rw [kind_eq_file below.kind.symm]
      rfl
    | link target =>
      rw [kind_eq_link below.kind.symm]
      rfl
    | directory entries =>
      obtain ⟨more,rfl⟩ := kind_eq_directory below.kind.symm
      rw [stretch,stretch]
      by_cases around : name = aroundName
      · rw [if_pos around,if_pos around]
        exact ih (alike.getD_at? here.dropLast)
      rw [if_neg around,if_neg around]
      by_cases long : maxNameOctets < octetCount name
      · rw [if_pos long,if_pos long]
        rfl
      rw [if_neg long,if_neg long]
      rcases below.entry? name with ⟨own,same⟩ | ⟨a,b,own,same,inner⟩
      · rw [own,same]
        cases rest
        · exact ⟨rfl,rfl⟩
        · rfl
      · rw [own,same]
        cases a with
        | file content =>
          have file := kind_eq_file inner.kind.symm
          subst file
          exact ih inner
        | link target =>
          have link := kind_eq_link inner.kind.symm
          subst link
          dsimp only
          split
          · exact ⟨rfl,fun _ => rfl⟩
          · exact ⟨rfl,rfl,rfl⟩
        | directory inside =>
          obtain ⟨others,rfl⟩ := kind_eq_directory inner.kind.symm
          exact ih inner

theorem followNames_alike (alike : fs.root.Alike other.root) (followLast : Bool) (links : Nat) (forDirectory : Bool)
    (here : Place) (names : List Text) : (fs.followNames followLast false links forDirectory here names).Alike
      (other.followNames followLast false links forDirectory here names) := by
  have way : (fs.stretch followLast here ((fs.root.at? here).getD default) names).Alike
      (other.stretch followLast here ((other.root.at? here).getD default) names) :=
    stretch_alike alike followLast (alike.getD_at? here) names
  rw [followNames.eq_def,followNames.eq_def]
  dsimp only
  cases first : fs.stretch followLast here ((fs.root.at? here).getD default) names with
  | reached r =>
    cases second : other.stretch followLast here ((other.root.at? here).getD default) names with
    | reached s =>
      rw [first,second] at way
      exact way.asked forDirectory
    | link around target rest =>
      rw [first,second] at way
      exact way.elim
  | link around target rest =>
    cases second : other.stretch followLast here ((other.root.at? here).getD default) names with
    | reached s =>
      rw [first,second] at way
      exact way.elim
    | link around' target' rest' =>
      rw [first,second] at way
      obtain ⟨rfl,rfl,rfl⟩ := way
      cases links with
      | zero => rfl
      | succ links =>
        simp only [Bool.false_and,Bool.false_eq_true,if_false]
        exact followNames_alike alike followLast links _ _ _

/-- A path leads to the same place. -/
theorem follow_alike (alike : fs.Alike other) (followLast : Bool) (p : Path) :
    (fs.follow followLast p).Alike (other.follow followLast p) := by
  rw [follow,follow,reach,reach]
  split
  · rfl
  · rw [alike.working]
    exact followNames_alike alike.root followLast maxLinks false _ _

theorem isDirectory_alike (alike : fs.Alike other) (p : Path) : fs.isDirectory p = other.isDirectory p := by
  unfold isDirectory exists?
  rcases (follow_alike alike true p).node_or with ⟨place,n,m,first,second,inner⟩ | ⟨none,nothing⟩
  · rw [first,second]
    have kind := inner.kind
    cases n <;> cases m <;> cases kind <;> rfl
  · cases first : fs.follow true p with
    | node place n => exact absurd first (none place n)
    | _ =>
      cases second : other.follow true p with
      | node place n => exact absurd second (nothing place n)
      | _ => rfl

theorem resolveNames_alike (alike : fs.root.Alike other.root) (fuel : Nat) (here : Place) (names : List Text)
    (known : Known) : fs.resolveNames fuel here names known = other.resolveNames fuel here names known := by
  induction fuel generalizing here names known with
  | zero => rfl
  | succ fuel ih =>
    cases names with
    | nil => rfl
    | cons name rest =>
      rw [resolveNames,resolveNames]
      dsimp only
      simp only [ih]
      rcases alike.at? (here.step name) with ⟨own,same⟩ | ⟨a,b,own,same,inner⟩
      · rw [own,same]
      · rw [own,same]
        have kind := inner.kind
        cases a <;> cases b <;> cases kind <;> rfl

/-- A path is resolved to the same place. -/
theorem resolve_alike (alike : fs.Alike other) (p : Path) : fs.resolve p = other.resolve p := by
  unfold resolve
  cases checkPath (nullMessage "lstat") p with
  | error e => rfl
  | ok _ =>
    dsimp only
    rw [resolveNames_alike alike.root,alike.weight,alike.working]
    generalize withoutPoints _ = place
    have loops := (follow_alike alike true ⟨1,place⟩).eq_nowhere_iff .tooManyLinks
    by_cases loop : fs.follow true ⟨1,place⟩ = .nowhere .tooManyLinks
    · rw [loop,loops.mp loop]
    · have otherLoop : other.follow true ⟨1,place⟩ ≠ .nowhere .tooManyLinks := fun again => loop (loops.mpr again)
      split
      · contradiction
      · rfl

theorem resolveSome_alike (alike : fs.Alike other) (limit : Option Int) (matched : List Place) :
    fs.resolveSome limit matched = other.resolveSome limit matched := by
  induction matched generalizing limit with
  | nil => rw [resolveSome,resolveSome]
  | cons entry rest ih => rw [resolveSome,resolveSome,resolve_alike alike,ih]

/-! ### Scanning -/

theorem lists_alike (alike : fs.Alike other) {pattern : Text} {here place : Place} {n m : Node} (below : n.Alike m)
    (lists : fs.Lists pattern here n place) : other.Lists pattern here m place := by
  obtain ⟨before,name,entry,own,found,counts,fits,passed⟩ := lists
  rcases below.at? (before ++ [name]) with ⟨none,_⟩ | ⟨a,b,first,second,inner⟩
  · cases none.symm.trans found
  · cases first.symm.trans found
    refine ⟨before,name,b,own,second,?_,fits,passed⟩
    have kind := inner.kind.symm
    cases counts with
    | file content =>
      rw [kind_eq_file kind]
      exact .file content
    | link leads =>
      rw [kind_eq_link kind]
      exact .link ((isDirectory_alike alike _).symm.trans leads)

theorem Alike.symm (alike : fs.Alike other) : other.Alike fs :=
  ⟨alike.root.symm,alike.weight.symm,alike.working.symm⟩

/-- A scan of two trees gives the same when the same stands at every place of them. -/
theorem scan_alike (alike : fs.Alike other) (grounded : fs.IsGrounded) (sound : fs.root.IsSound) (otherSound : other.root.IsSound)
    (p : Path) (pattern : Text) (limit : Option Int) : fs.scan p pattern limit = other.scan p pattern limit := by
  have otherGrounded : other.IsGrounded := by
    unfold IsGrounded at grounded ⊢
    rw [← alike.working,← alike.root,grounded]
  have here := follow_isFound grounded true p
  have there := follow_isFound otherGrounded true p
  unfold scan
  cases checkPath (nullMessage "scandir") p with
  | error e => rfl
  | ok _ =>
    dsimp only
    rcases (follow_alike alike true p).node_or with ⟨place,n,m,first,second,inner⟩ | ⟨none,nothing⟩
    · rw [first] at here
      rw [second] at there
      have nSound := sound.at? here
      have mSound := otherSound.at? there
      have same : fs.matching pattern place n = other.matching pattern place m := by
        refine Place.eq_of_pairwise_precedes (pairwise_matching nSound place) (pairwise_matching mSound place) fun entry => ?_
        rw [mem_matching_iff nSound,mem_matching_iff mSound]
        exact ⟨lists_alike alike inner,lists_alike alike.symm inner.symm⟩
      rw [first,second]
      dsimp only
      rw [same,resolveSome_alike alike]
    · cases first : fs.follow true p with
      | node place n => exact absurd first (none place n)
      | _ =>
        cases second : other.follow true p with
        | node place n => exact absurd second (nothing place n)
        | _ => rfl

end Files

/-- The order in which directories list their entries is of no account for a scan, whatever links there are. -/
theorem Node.Relisted.scan_eq {fs : Files} (grounded : fs.IsGrounded) (sound : fs.root.IsSound) {other : Node}
    (same : fs.root.Relisted other) (p : Path) (pattern : Text) (limit : Option Int) :
    Files.scan { fs with root := other } p pattern limit = fs.scan p pattern limit := by
  obtain ⟨otherSound,alike,weight⟩ := same.sound_alike sound
  have filesAlike : Files.Alike fs { fs with root := other } := ⟨alike,weight,rfl⟩
  exact (Files.scan_alike filesAlike grounded sound otherSound p pattern limit).symm

end ApiDocs
