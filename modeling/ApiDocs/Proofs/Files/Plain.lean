import ApiDocs.Files.Resolve
import ApiDocs.Proofs.Files.Follow
import ApiDocs.Proofs.Text.Lines
import Mathlib.Data.List.Nodup

/-!
Trees without links. Whatever stands in them, a path is resolved name by name (`Files.resolve_of_isPlain`), and what it
leads to stands under the last of its names (`Files.follow_last`).
-/
namespace ApiDocs

namespace Node

/-- A tree of directories and files, where no name stands twice in a directory. -/
inductive IsPlain : Node → Prop
  | file (content : Bytes) : IsPlain (file content)
  | directory {entries : List (Text × Node)} (distinct : (entries.map (·.1)).Nodup)
    (inner : ∀ entry ∈ entries, IsPlain entry.2) : IsPlain (directory entries)

theorem isPlain_emptyDirectory : emptyDirectory.IsPlain := .directory List.nodup_nil (by simp)

theorem mem_of_entry {entries : List (Text × Node)} {name : Text} {child : Node}
    (found : entry? (directory entries) name = some child) : (name,child) ∈ entries := by
  obtain ⟨before,after,rfl,_⟩ := bind_found found
  simp

theorem not_mem_of_entry {entries : List (Text × Node)} {name : Text}
    (absent : entry? (directory entries) name = none) : name ∉ entries.map (·.1) := by
  intro member
  obtain ⟨entry,among,rfl⟩ := List.mem_map.mp member
  have none := List.find?_eq_none.mp (Option.map_eq_none_iff.mp absent) entry among
  simp at none

/-- A name that does not stand twice is found. -/
theorem entry?_of_mem {entries : List (Text × Node)} (distinct : (entries.map (·.1)).Nodup) {name : Text} {child : Node}
    (member : (name,child) ∈ entries) : entry? (directory entries) name = some child := by
  cases own : entry? (directory entries) name with
  | none => exact absurd (List.mem_map_of_mem member) (not_mem_of_entry own)
  | some other =>
    have same := List.inj_on_of_nodup_map distinct (mem_of_entry own) member rfl
    rw [(Prod.mk.inj same).2]

namespace IsPlain

variable {n m : Node} {place : Place}

/-- What stands in a plain tree is plain. -/
theorem at? (plain : n.IsPlain) (found : n.at? place = some m) : m.IsPlain := by
  induction place generalizing n with
  | nil => exact Option.some.inj found ▸ plain
  | cons name rest ih =>
    obtain ⟨child,own,inner⟩ := Option.bind_eq_some_iff.mp found
    cases plain with
    | file content => cases own
    | directory distinct each => exact ih (each _ (mem_of_entry own)) inner

theorem ne_link (plain : n.IsPlain) (target : Text) : n ≠ .link target := by
  rintro rfl
  cases plain

/-- A plain node may be put where a leaf can be put. -/
theorem put (plain : n.IsPlain) (accepts : n.Accepts place) {new : Node} (plainNew : new.IsPlain) :
    (n.put place new).IsPlain := by
  induction accepts with
  | file content => exact plainNew
  | absent absent =>
    cases plain with
    | directory distinct inner =>
      rw [put_absent absent,bind_absent absent]
      refine .directory ?_ (List.forall_mem_append.mpr ⟨inner,List.forall_mem_singleton.mpr plainNew⟩)
      rw [List.map_append]
      exact distinct.append (List.nodup_singleton _) (List.disjoint_singleton.mpr (not_mem_of_entry absent))
  | @inside entries name child rest found _ ih =>
    cases plain with
    | directory distinct inner =>
      have below := ih (inner _ (mem_of_entry found))
      rw [put_cons found]
      obtain ⟨before,after,rfl,bound⟩ := bind_found found
      rw [bound]
      refine .directory (by simpa using distinct) ?_
      simp only [List.forall_mem_append,List.forall_mem_cons] at inner ⊢
      exact ⟨inner.1,below,inner.2.2⟩

end IsPlain

end Node

namespace Files

open Node

variable {fs : Files}

/-! ### Following -/

/-- Without links names are followed to their end. What is reached there, unless it is a directory, goes by the last
    name. -/
theorem stretch_of_isPlain (plain : fs.root.IsPlain) {here : Place} {n : Node} (start : fs.root.at? here = some n)
    (names : List Text) :
    ∃ r, fs.stretch true here n names = .reached r ∧ r ≠ .nowhere .tooManyLinks ∧
      ∀ place, r.EndsAt place → (∀ other entries, r ≠ .node other (.directory entries)) →
        place.getLast? = (here ++ names).getLast? := by
  induction names generalizing here n with
  | nil => exact ⟨_,rfl,by rintro ⟨⟩,by rintro _ rfl _; simp⟩
  | cons name rest ih =>
    cases plain.at? start with
    | file content => exact ⟨_,rfl,by rintro ⟨⟩,by rintro _ ⟨⟩⟩
    | @directory entries _ _ =>
      rw [stretch]
      by_cases around : name = aroundName
      · obtain ⟨outer,found⟩ := at?_dropLast start
        obtain ⟨r,way,noLoop,last⟩ := ih found
        rw [if_pos around,found]
        refine ⟨r,way,noLoop,fun place ends noDirectory => ?_⟩
        cases rest with
        | cons next others =>
          rw [last place ends noDirectory]
          simp [List.getLast?_cons]
        | nil =>
          -- The way ends in the directory around, for there is a directory in it.
          cases way
          cases outer with
          | directory more => exact absurd rfl (noDirectory _ more)
          | _ =>
            rcases List.eq_nil_or_concat here with rfl | ⟨before,inner,rfl⟩
            · cases start.symm.trans found
            · simp only [List.concat_eq_append,List.dropLast_concat] at start found
              rw [at?_concat,found] at start
              cases start
      rw [if_neg around]
      by_cases long : maxNameOctets < octetCount name
      · rw [if_pos long]
        exact ⟨_,rfl,by rintro ⟨⟩,by rintro _ ⟨⟩⟩
      rw [if_neg long]
      have below := at?_entry start name
      cases own : Node.entry? (.directory entries) name with
      | none =>
        refine ⟨_,rfl,?_,fun place ends _ => ?_⟩
        · split <;> rintro ⟨⟩
        · cases rest with
          | nil => rw [← show here ++ [name] = place from ends]
          | cons next others => cases ends
      | some child =>
        have found := below.trans own
        obtain ⟨r,way,noLoop,last⟩ := ih found
        rw [List.append_assoc] at last
        refine ⟨r,?_,noLoop,last⟩
        cases child with
        | link target => exact absurd rfl ((plain.at? found).ne_link target)
        | _ => exact way

theorem follow_of_isPlain (grounded : fs.IsGrounded) (plain : fs.root.IsPlain) (p : Path) :
    fs.follow true p ≠ .nowhere .tooManyLinks ∧
      ∀ place, (fs.follow true p).EndsAt place → (∀ other entries, fs.follow true p ≠ .node other (.directory entries)) →
        place.getLast? = (p.origin fs.working ++ p.names).getLast? := by
  rw [follow,reach]
  split
  · exact ⟨by rintro ⟨⟩,by rintro _ ⟨⟩⟩
  · obtain ⟨n,start⟩ := grounded.origin p
    obtain ⟨r,way,noLoop,last⟩ := stretch_of_isPlain plain start p.names
    rw [followNames_reached start way]
    exact ⟨noLoop,last⟩

/-- A path begins in a directory. -/
theorem IsGrounded.origin_directory (grounded : fs.IsGrounded) (p : Path) :
    ∃ entries, fs.root.at? (p.origin fs.working) = some (.directory entries) := by
  obtain ⟨n,working,kind⟩ := Option.map_eq_some_iff.mp grounded
  obtain ⟨entries,rfl⟩ := kind_eq_directory kind
  unfold Path.origin
  split
  · cases place : fs.working with
    | nil =>
      rw [place] at working
      exact ⟨entries,working⟩
    | cons name rest =>
      rw [place] at working
      obtain ⟨child,own,_⟩ := Option.bind_eq_some_iff.mp working
      cases root : fs.root with
      | directory more => exact ⟨more,rfl⟩
      | _ => rw [root] at own; cases own
  · exact ⟨entries,working⟩

/-- The place that a path leads to goes by the last name of the path, unless there is a directory. -/
theorem follow_last (grounded : fs.IsGrounded) (plain : fs.root.IsPlain) {p : Path} {place : Place}
    (ends : (fs.follow true p).EndsAt place)
    (noDirectory : ∀ other entries, fs.follow true p ≠ .node other (.directory entries)) :
    place.getLast? = p.names.getLast? := by
  have last := (follow_of_isPlain grounded plain p).2 place ends noDirectory
  cases named : p.names with
  | cons name rest =>
    rw [last,named]
    simp [List.getLast?_cons]
  | nil =>
    obtain ⟨entries,start⟩ := grounded.origin_directory p
    unfold follow reach at ends noDirectory
    split at ends
    · cases ends
    · rename_i short
      rw [if_neg short,named,followNames_reached start rfl] at noDirectory
      exact absurd rfl (noDirectory _ entries)

/-! ### Names -/

/-- A text that can stand between the slashes of a path as the name of something. -/
structure IsName (name : Text) : Prop where
  filled : name ≠ []
  noPoint : name ≠ [0x2E]
  notAround : name ≠ aroundName
  noSlash : 0x2F ∉ name

instance (name : Text) : Decidable (IsName name) :=
  decidable_of_iff (name ≠ [] ∧ name ≠ [0x2E] ∧ name ≠ aroundName ∧ 0x2F ∉ name)
    ⟨fun ⟨a,b,c,d⟩ => ⟨a,b,c,d⟩,fun ⟨a,b,c,d⟩ => ⟨a,b,c,d⟩⟩

/-- Every name below a node can stand in a path. -/
def HasNames (n : Node) : Prop := ∀ {place name m}, n.at? (place ++ [name]) = some m → IsName name

theorem hasNames_file (content : Bytes) : HasNames (.file content) := by
  intro place name m found
  rw [at?_concat] at found
  cases place <;> cases found

theorem hasNames_directory {entries : List (Text × Node)} (names : ∀ entry ∈ entries, IsName entry.1)
    (inner : ∀ entry ∈ entries, HasNames entry.2) : HasNames (.directory entries) := by
  intro place name m found
  cases place with
  | nil =>
    obtain ⟨child,own,_⟩ := Option.bind_eq_some_iff.mp found
    exact names _ (mem_of_entry own)
  | cons first rest =>
    obtain ⟨child,own,below⟩ := Option.bind_eq_some_iff.mp found
    exact inner _ (mem_of_entry own) below

/-! ### Resolving -/

theorem IsName.leadsDown {name : Text} (isName : IsName name) : leadsDown name = true := by
  simp [ApiDocs.leadsDown,isName.filled,isName.noPoint,isName.notAround]

/-- Where names lead from a place on when there are no links: two points drop the name in front of them. -/
def lexical (here : Place) (names : List Text) : Place := names.foldl Place.step here

theorem lexical_concat (here : Place) (names : List Text) {name : Text} (isName : IsName name) :
    lexical here (names ++ [name]) = lexical here names ++ [name] := by
  simp [lexical,Place.step,isName.leadsDown]

theorem resolveNames_of_isPlain (plain : fs.root.IsPlain) (here : Place) (names : List Text) (known : Known) {fuel : Nat}
    (enough : names.length < fuel) : fs.resolveNames fuel here names known = ((lexical here names,true),known) := by
  induction names generalizing here fuel with
  | nil =>
    obtain ⟨fuel,rfl⟩ := Nat.exists_eq_add_of_lt enough
    rfl
  | cons name rest ih =>
    obtain ⟨fuel,rfl⟩ := Nat.exists_eq_add_one_of_ne_zero (Nat.ne_zero_of_lt enough)
    have later : rest.length < fuel := by simpa using enough
    have next : fs.resolveNames fuel (here.step name) rest known = ((lexical here (name :: rest),true),known) := ih _ later
    rw [resolveNames]
    dsimp only
    rw [next]
    split
    · rfl
    · rename_i down
      have below : here.step name = here ++ [name] := if_pos (by simpa using down)
      split
      · rename_i target found
        exact absurd rfl ((plain.at? (below ▸ found)).ne_link target)
      · rfl

/-- Without links the tree is of no account for what a path is resolved to. -/
theorem resolve_of_isPlain (grounded : fs.IsGrounded) (plain : fs.root.IsPlain) (p : Path) :
    fs.resolve p = match checkPath (nullMessage "lstat") p with
      | .error e => .error (.file e)
      | .ok _ => .ok (withoutPoints (lexical (p.origin fs.working) p.names)) := by
  unfold resolve
  cases checkPath (nullMessage "lstat") p with
  | error e => rfl
  | ok _ =>
    dsimp only
    rw [resolveNames_of_isPlain plain _ _ _ (by omega)]
    dsimp only
    have noLoop := (follow_of_isPlain grounded plain ⟨1,withoutPoints (lexical (p.origin fs.working) p.names)⟩).1
    split
    · contradiction
    · rfl

/-- What a path with a name at its end is resolved to goes by that name. -/
theorem getLast?_of_resolve (grounded : fs.IsGrounded) (plain : fs.root.IsPlain) {p : Path} {place : Place}
    (run : fs.resolve p = .ok place) {name : Text} (isName : IsName name) (last : p.names.getLast? = some name) :
    place.getLast? = some name := by
  obtain ⟨before,split⟩ := List.getLast?_eq_some_iff.mp last
  rw [resolve_of_isPlain grounded plain] at run
  split at run
  · cases run
  · cases run
    rw [split,lexical_concat _ _ isName]
    show (lexical [] _).getLast? = some name
    rw [lexical_concat _ _ isName,List.getLast?_concat]

/-- The spelling of a place is read back with the same name at its end. -/
theorem getLast?_ofText {place : Place} {name : Text} (isName : IsName name) (last : place.getLast? = some name) :
    (Path.ofText place.toText).names.getLast? = some name := by
  obtain ⟨before,rfl⟩ := List.getLast?_eq_some_iff.mp last
  have spelled : ∃ front, Place.toText (before ++ [name]) = front ++ 0x2F :: name := by
    have whole : Place.toText (before ++ [name]) = 0x2F :: Text.join [0x2F] (before ++ [name]) := rfl
    rw [whole,Text.join_concat]
    split
    · exact ⟨[],rfl⟩
    · exact ⟨0x2F :: Text.join [0x2F] before,by simp⟩
  obtain ⟨front,spelled⟩ := spelled
  have kept : [name].filter (fun name => !name.isEmpty && name != [0x2E]) = [name] := by
    simp [isName.filled,isName.noPoint]
  show (Path.namesOf _).getLast? = some name
  rw [spelled,Path.namesOf,Text.splitOn_append,Text.splitOn_of_not_mem isName.noSlash,List.filter_append,kept,
    List.getLast?_concat]

end Files

end ApiDocs
