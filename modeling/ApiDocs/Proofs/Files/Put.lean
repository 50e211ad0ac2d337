import ApiDocs.Files.Tree
import Mathlib.Data.List.Basic

/-!
What putting a node into a tree changes. A tree is seen through what stands at each place (`Node.kindAt?`): when a leaf
is put where there is a file, or nothing in a directory, that place changes and no other (`kindAt?_put`).
-/
namespace ApiDocs

/-- What a node is, without what is below it. -/
inductive Kind where
  | file (content : Bytes)
  | link (target : Text)
  | directory

namespace Node

/-- The kind of a node. -/
def kind : Node → Kind
  | file content => .file content
  | link target => .link target
  | directory _ => .directory

/-- What stands at a place below. -/
def kindAt? (n : Node) (place : Place) : Option Kind := (n.at? place).map kind

theorem kind_eq_directory {n : Node} (same : n.kind = .directory) : ∃ entries, n = directory entries := by
  cases n with
  | directory entries => exact ⟨entries,rfl⟩
  | _ => cases same

theorem kind_eq_file {n : Node} {content : Bytes} (same : n.kind = .file content) : n = file content := by
  cases n with
  | file own => rw [Kind.file.inj same]
  | _ => cases same

theorem kind_eq_link {n : Node} {target : Text} (same : n.kind = .link target) : n = link target := by
  cases n with
  | link own => rw [Kind.link.inj same]
  | _ => cases same

theorem at?_append (n : Node) (place more : Place) : n.at? (place ++ more) = (n.at? place).bind (·.at? more) := by
  induction place generalizing n with
  | nil => rfl
  | cons name rest ih =>
    rw [List.cons_append,at?,at?]
    cases n.entry? name with
    | none => rfl
    | some child => exact ih child

/-- What stands at a place stands in the directory around under its name. -/
theorem at?_concat (n : Node) (place : Place) (name : Text) :
    n.at? (place ++ [name]) = (n.at? place).bind fun m => m.entry? name := by
  rw [at?_append]
  congr 1
  funext m
  rw [at?]
  cases m.entry? name <;> rfl

theorem at?_entry {n : Node} {place : Place} {entries : List (Text × Node)}
    (found : n.at? place = some (directory entries)) (name : Text) :
    n.at? (place ++ [name]) = entry? (directory entries) name := by
  rw [at?_concat,found]
  rfl

/-- Around a place where something stands there is something as well. -/
theorem at?_dropLast {n m : Node} {place : Place} (found : n.at? place = some m) :
    ∃ around, n.at? place.dropLast = some around := by
  rcases List.eq_nil_or_concat place with rfl | ⟨before,name,rfl⟩
  · exact ⟨n,rfl⟩
  · rw [List.concat_eq_append,at?_concat] at found
    obtain ⟨around,outer,_⟩ := Option.bind_eq_some_iff.mp found
    exact ⟨around,by simpa using outer⟩

/-! ### Entries -/

theorem entry?_bind (name : Text) (new : Node) (entries : List (Text × Node)) (other : Text) :
    entry? (directory (Node.bind name new entries)) other =
      if name = other then some new else entry? (directory entries) other := by
  unfold entry?
  simp only [Node.entries]
  induction entries with
  | nil => by_cases own : name = other <;> simp [Node.bind,own]
  | cons entry rest ih =>
    by_cases same : entry.1 = name
    · by_cases own : name = other <;> simp [Node.bind,same,own]
    · simp only [Node.bind,same,↓reduceIte,List.find?_cons]
      by_cases here : entry.1 = other
      · have foreign : ¬ name = other := fun own => same (here.trans own.symm)
        simp [here,foreign]
      · simp [here,ih]

theorem put_cons {entries : List (Text × Node)} {name : Text} {child : Node}
    (found : entry? (directory entries) name = some child) (rest : Place) (new : Node) :
    (directory entries).put (name :: rest) new = directory (Node.bind name (child.put rest new) entries) := by
  rw [ entry?] at found
  simp only [put]
  rw [show (entries.find? (·.1 = name)).map (·.2) = some child from found]

theorem put_absent {entries : List (Text × Node)} {name : Text} (absent : entry? (directory entries) name = none)
    (new : Node) : (directory entries).put [name] new = directory (Node.bind name new entries) := by
  rw [ entry?] at absent
  simp only [put]
  rw [show (entries.find? (·.1 = name)).map (·.2) = none from absent]
  rfl

/-- A new name comes last. -/
theorem bind_absent {entries : List (Text × Node)} {name : Text} (absent : entry? (directory entries) name = none)
    (new : Node) : Node.bind name new entries = entries ++ [(name,new)] := by
  rw [ entry?] at absent
  induction entries with
  | nil => rfl
  | cons entry rest ih =>
    simp only [Node.entries,List.find?_cons] at absent ih
    by_cases own : entry.1 = name
    · simp [own] at absent
    · simp only [own,decide_false] at absent
      simp [Node.bind,own,ih absent]

/-- A name that is there keeps its place among the entries. -/
theorem bind_found {entries : List (Text × Node)} {name : Text} {child : Node}
    (found : entry? (directory entries) name = some child) :
    ∃ before after, entries = before ++ (name,child) :: after ∧
      ∀ new, Node.bind name new entries = before ++ (name,new) :: after := by
  rw [ entry?] at found
  induction entries with
  | nil => cases found
  | cons entry rest ih =>
    simp only [Node.entries,List.find?_cons] at found ih
    by_cases own : entry.1 = name
    · simp only [own,decide_true] at found
      cases found
      exact ⟨[],rest,by simp [← own],fun new => by simp [Node.bind,own]⟩
    · simp only [own,decide_false] at found
      obtain ⟨before,after,rfl,bound⟩ := ih found
      exact ⟨entry :: before,after,rfl,fun new => by simp [Node.bind,own,bound]⟩

/-- What stands at a place may be put there again. -/
theorem put_self {n m : Node} {place : Place} (found : n.at? place = some m) : n.put place m = n := by
  induction place generalizing n with
  | nil => exact (Option.some.inj found).symm
  | cons name rest ih =>
    obtain ⟨child,own,inner⟩ := Option.bind_eq_some_iff.mp found
    cases n with
    | directory entries =>
      obtain ⟨before,after,rfl,bound⟩ := bind_found own
      rw [put_cons own,ih inner,bound]
    | _ => cases own

/-- A leaf can be put at a place: a file stands there, or nothing in a directory. -/
inductive Accepts : Node → Place → Prop
  | file (content : Bytes) : Accepts (file content) []
  | absent {entries : List (Text × Node)} {name : Text} (absent : entry? (directory entries) name = none) :
    Accepts (directory entries) [name]
  | inside {entries : List (Text × Node)} {name : Text} {child : Node} {rest : Place}
    (found : entry? (directory entries) name = some child) (inner : Accepts child rest) :
    Accepts (directory entries) (name :: rest)

theorem accepts_of_file {n : Node} {place : Place} {content : Bytes} (found : n.at? place = some (file content)) :
    n.Accepts place := by
  induction place generalizing n with
  | nil =>
    rw [Option.some.inj found]
    exact .file content
  | cons name rest ih =>
    obtain ⟨child,own,inner⟩ := Option.bind_eq_some_iff.mp found
    cases n with
    | directory entries => exact .inside own (ih inner)
    | _ => cases own

theorem accepts_of_absent {n : Node} {place : Place} {entries : List (Text × Node)} {name : Text}
    (found : n.at? place = some (directory entries)) (absent : entry? (directory entries) name = none) :
    n.Accepts (place ++ [name]) := by
  induction place generalizing n with
  | nil =>
    rw [Option.some.inj found]
    exact .absent absent
  | cons first rest ih =>
    obtain ⟨child,own,inner⟩ := Option.bind_eq_some_iff.mp found
    cases n with
    | directory outer => exact .inside own (ih inner)
    | _ => cases own

/-- A directory is still one when a leaf was put into it. -/
theorem Accepts.put_directory {entries : List (Text × Node)} {place : Place} (accepts : (directory entries).Accepts place)
    (new : Node) : ∃ more, (directory entries).put place new = directory more := by
  cases accepts with
  | absent absent => exact ⟨_,put_absent absent new⟩
  | inside found _ => exact ⟨_,put_cons found _ new⟩

/-- Where a leaf can be put, a file stands or nothing. -/
theorem Accepts.kindAt? {n : Node} {place : Place} (accepts : n.Accepts place) :
    n.kindAt? place = none ∨ ∃ content, n.kindAt? place = some (.file content) := by
  induction accepts with
  | file content => exact .inr ⟨content,rfl⟩
  | absent absent =>
    left
    simp [Node.kindAt?,at?,absent]
  | inside found _ ih => simpa [Node.kindAt?,at?,found] using ih

theorem kindAt?_leaf {n : Node} (leaf : n.entries = []) (place : Place) :
    n.kindAt? place = if place = [] then some n.kind else none := by
  cases place with
  | nil => rfl
  | cons name rest => simp [Node.kindAt?,at?, entry?,leaf]

/-- When a leaf is put at a place that accepts it, that place changes and no other. -/
theorem kindAt?_put {n : Node} {place : Place} (accepts : n.Accepts place) {new : Node} (leaf : new.entries = [])
    (other : Place) : (n.put place new).kindAt? other = if other = place then some new.kind else n.kindAt? other := by
  induction accepts generalizing other with
  | file content =>
    rw [put,kindAt?_leaf leaf,kindAt?_leaf (rfl : (file content).entries = [])]
    by_cases root : other = [] <;> simp [root]
  | @absent entries name absent =>
    rw [put_absent absent]
    cases other with
    | nil => rfl
    | cons first rest =>
      have below := kindAt?_leaf leaf rest
      unfold Node.kindAt? at below ⊢
      rw [at?,at?,entry?_bind]
      by_cases own : name = first
      · subst own
        simp [below,absent]
      · simp [own,Ne.symm own]
  | @inside entries name child more found _ ih =>
    rw [put_cons found]
    cases other with
    | nil => rfl
    | cons first rest =>
      have below := ih rest
      unfold Node.kindAt? at below ⊢
      rw [at?,at?,entry?_bind]
      by_cases own : name = first
      · subst own
        simp [below,found]
      · simp [own,Ne.symm own]

end Node

end ApiDocs
