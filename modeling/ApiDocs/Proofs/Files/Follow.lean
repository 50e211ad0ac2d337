import ApiDocs.Proofs.Files.Put

/-!
Where paths lead before and after a tree grows. A path is followed only to what stands in the tree (`follow_isFound`). A
tree that has grown leaves the directories, files and links on the way where they were, so a path leads to the same place
as before (`follow_later`): a file that was written is read under the path that it was written to (`read_of_write`).
-/
namespace ApiDocs

open Node

/-- Something stands at the end of the way, or nothing yet in a directory. -/
def Reached.IsFound (root : Node) : Reached → Prop
  | node place n => root.at? place = some n
  | absent around name => ∃ entries, root.at? around = some (.directory entries) ∧
      Node.entry? (.directory entries) name = none
  | nowhere _ => True

/-- The way ends at a place, whether something stands there or not. -/
def Reached.EndsAt (place : Place) : Reached → Prop
  | node other _ => other = place
  | absent around name => around ++ [name] = place
  | nowhere _ => False

theorem Reached.IsFound.asked {root : Node} {r : Reached} (found : r.IsFound root) (forDirectory : Bool) :
    (r.asked forDirectory).IsFound root := by
  cases forDirectory with
  | false => exact found
  | true =>
    cases r with
    | node place n =>
      cases n with
      | directory entries => exact found
      | _ => trivial
    | _ => trivial

/-- What is reached where a directory is asked for is one. -/
theorem Reached.eq_directory_of_asked {r : Reached} {place : Place} (ends : (r.asked true).EndsAt place) :
    ∃ entries, r = .node place (.directory entries) := by
  cases r with
  | node other n =>
    cases n with
    | directory entries =>
      obtain rfl : other = place := ends
      exact ⟨entries,rfl⟩
    | _ => cases ends
  | _ => cases ends

/-- The way up to the first link is found. -/
def Stretch.IsFound (root : Node) : Stretch → Prop
  | reached r => r.IsFound root
  | link around _ _ => ∃ n, root.at? around = some n

namespace Files

theorem at?_origin {root : Node} {around : Place} (found : ∃ n, root.at? around = some n) (target : Path) :
    ∃ n, root.at? (target.origin around) = some n := by
  unfold Path.origin
  split
  · exact ⟨root,rfl⟩
  · exact found

/-- The working directory exists. -/
def IsGrounded (fs : Files) : Prop := fs.root.kindAt? fs.working = some .directory

theorem IsGrounded.origin {fs : Files} (grounded : fs.IsGrounded) (p : Path) :
    ∃ n, fs.root.at? (p.origin fs.working) = some n := by
  obtain ⟨n,found,_⟩ := Option.map_eq_some_iff.mp grounded
  exact at?_origin ⟨n,found⟩ p

/-- Names are followed to what stands in the tree. -/
theorem stretch_isFound (fs : Files) (followLast : Bool) {here : Place} {n : Node} (start : fs.root.at? here = some n)
    (names : List Text) : (fs.stretch followLast here n names).IsFound fs.root := by
  induction names generalizing here n with
  | nil => exact start
  | cons name rest ih =>
    cases n with
    | file content => trivial
    | link target => trivial
    | directory entries =>
      have below := at?_entry start name
      rw [stretch]
      split
      · obtain ⟨around,found⟩ := at?_dropLast start
        rw [found]
        exact ih found
      · split
        · trivial
        · split
          · rename_i absent
            split
            · exact ⟨entries,start,absent⟩
            · trivial
          · rename_i own
            split
            · exact below.trans own
            · exact ⟨_,start⟩
          · rename_i own
            exact ih (below.trans own)

/-! ### Links -/

section Links

variable {fs : Files} {followLast toWrite forDirectory : Bool} {here : Place} {n : Node} {names : List Text}

theorem followNames_reached (start : fs.root.at? here = some n) {r : Reached}
    (way : fs.stretch followLast here n names = .reached r) (links : Nat) :
    fs.followNames followLast toWrite links forDirectory here names = r.asked forDirectory := by
  rw [followNames.eq_def]
  simp [start,way]

variable {around : Place} {target : Text} {rest : List Text}

theorem followNames_link_zero (start : fs.root.at? here = some n)
    (way : fs.stretch followLast here n names = .link around target rest) :
    fs.followNames followLast toWrite 0 forDirectory here names = .nowhere .tooManyLinks := by
  rw [followNames.eq_def]
  simp [start,way]

/-- A link is followed to its target, unless that ends with a slash where a file is to be written. -/
theorem followNames_link_succ (toWrite forDirectory : Bool) (start : fs.root.at? here = some n)
    (way : fs.stretch followLast here n names = .link around target rest) (links : Nat) :
    if toWrite && rest.isEmpty && Ending.ofText target = .slash then
      ∃ f, fs.followNames followLast toWrite (links+1) forDirectory here names = .nowhere f
    else fs.followNames followLast toWrite (links+1) forDirectory here names =
      fs.followNames followLast (toWrite && !(rest.isEmpty && Ending.ofText target = .point)) links
        (forDirectory || rest.isEmpty && Ending.ofText target ≠ .name) ((Path.ofText target).origin around)
        ((Path.ofText target).names ++ rest) := by
  rw [followNames.eq_def]
  simp only [start,Option.getD_some,way]
  split
  · split <;> exact ⟨_,rfl⟩
  · rfl

end Links

theorem followNames_isFound (fs : Files) (followLast toWrite : Bool) (links : Nat) (forDirectory : Bool) {here : Place}
    (start : ∃ n, fs.root.at? here = some n) (names : List Text) :
    (fs.followNames followLast toWrite links forDirectory here names).IsFound fs.root := by
  obtain ⟨n,found⟩ := start
  have sound := fs.stretch_isFound followLast found names
  cases way : fs.stretch followLast here n names with
  | reached r =>
    rw [way] at sound
    rw [followNames_reached found way]
    exact sound.asked forDirectory
  | link around target rest =>
    rw [way] at sound
    cases links with
    | zero =>
      rw [followNames_link_zero found way]
      trivial
    | succ links =>
      have next := followNames_link_succ toWrite forDirectory found way links
      split at next
      · obtain ⟨f,refused⟩ := next
        rw [refused]
        trivial
      · rw [next]
        exact fs.followNames_isFound followLast _ links _ (at?_origin sound _) _

/-- A path is followed to what stands in the tree. -/
theorem follow_isFound {fs : Files} (grounded : fs.IsGrounded) (followLast : Bool) (p : Path) :
    (fs.follow followLast p).IsFound fs.root := by
  rw [follow,reach]
  split
  · trivial
  · exact fs.followNames_isFound followLast false maxLinks false (grounded.origin p) p.names

/-- What a path leads to stands there. -/
theorem at?_of_follow {fs : Files} (grounded : fs.IsGrounded) {followLast : Bool} {p : Path} {place : Place} {n : Node}
    (leads : fs.follow followLast p = .node place n) : fs.root.at? place = some n := by
  have found := follow_isFound grounded followLast p
  rwa [leads] at found

/-- Whether the last link is followed is of account only where the way ends at a link. -/
theorem stretch_false (fs : Files) (here : Place) (n : Node) (names : List Text) :
    fs.stretch false here n names = fs.stretch true here n names ∨
    ∃ place target, fs.stretch false here n names = .reached (.node place (.link target)) := by
  induction names generalizing here n with
  | nil => exact .inl rfl
  | cons name rest ih =>
    cases n with
    | file content => exact .inl rfl
    | link target => exact .inl rfl
    | directory entries =>
      rw [stretch,stretch]
      split
      · exact ih _ _
      · split
        · exact .inl rfl
        · split
          · exact .inl rfl
          · rename_i target own
            cases rest with
            | nil => exact .inr ⟨_,target,rfl⟩
            | cons next others => exact .inl rfl
          · exact ih _ _

/-- A link that is not followed at the end of the way is followed in front of other names. -/
theorem rest_of_stretch_false {fs : Files} {here around : Place} {n : Node} {names rest : List Text} {target : Text}
    (way : fs.stretch false here n names = .link around target rest) : rest ≠ [] := by
  induction names generalizing here n with
  | nil => cases way
  | cons name others ih =>
    cases n with
    | file content => cases way
    | link other => cases way
    | directory entries =>
      rw [stretch] at way
      split at way
      · exact ih way
      · split at way
        · cases way
        · split at way
          · cases way
          · cases others with
            | nil => simp at way
            | cons next more =>
              cases way
              exact List.cons_ne_nil _ _
          · exact ih way

theorem followNames_false (fs : Files) (links : Nat) (here : Place) (names : List Text) :
    fs.followNames false false links false here names = fs.followNames true false links false here names ∨
    ∃ place target, fs.followNames false false links false here names = .node place (.link target) := by
  rw [followNames.eq_def,followNames.eq_def]
  dsimp only
  rcases fs.stretch_false here ((fs.root.at? here).getD default) names with same | ⟨place,target,ends⟩
  · rw [← same]
    split
    · exact .inl rfl
    · rename_i around target rest way
      cases links with
      | zero => exact .inl rfl
      | succ links =>
        have inner : rest.isEmpty = false := by simpa using rest_of_stretch_false way
        simp only [inner,Bool.false_and,Bool.false_eq_true,if_false,Bool.or_false]
        exact fs.followNames_false links _ _
  · rw [ends]
    exact .inr ⟨place,target,rfl⟩

theorem follow_false (fs : Files) (p : Path) :
    fs.follow false p = fs.follow true p ∨ ∃ place target, fs.follow false p = .node place (.link target) := by
  rw [follow,follow,reach,reach]
  split
  · exact .inl rfl
  · exact fs.followNames_false maxLinks _ _

theorem followNames_toWrite (fs : Files) (toWrite : Bool) (links : Nat) (forDirectory : Bool) (here : Place)
    (names : List Text) :
    fs.followNames true toWrite links forDirectory here names = fs.followNames true false links forDirectory here names ∨
    ∃ f, fs.followNames true toWrite links forDirectory here names = .nowhere f := by
  rw [followNames.eq_def,followNames.eq_def]
  dsimp only
  split
  · exact .inl rfl
  · cases links with
    | zero => exact .inl rfl
    | succ links =>
      simp only [Bool.false_and,Bool.false_eq_true,if_false]
      split
      · right
        split <;> exact ⟨_,rfl⟩
      · exact fs.followNames_toWrite _ links _ _ _

/-- Where a file is to be written, a path leads to the same place or is refused. -/
theorem followToWrite_eq (fs : Files) (p : Path) :
    fs.followToWrite p = fs.follow true p ∨ ∃ f, fs.followToWrite p = .nowhere f := by
  rw [followToWrite,follow,reach,reach]
  split
  · exact .inl rfl
  · exact fs.followNames_toWrite true maxLinks false _ _

theorem follow_of_followToWrite {fs : Files} {p : Path} {place : Place} (ends : (fs.followToWrite p).EndsAt place) :
    fs.follow true p = fs.followToWrite p := by
  rcases fs.followToWrite_eq p with same | ⟨f,refused⟩
  · exact same.symm
  · rw [refused] at ends
    cases ends

/-! ### Trees that have grown -/

/-- A second tree has what the first one has: directories and links are where they were, and files where files were. -/
structure Extends (fs later : Files) : Prop where
  working : later.working = fs.working
  directory : ∀ {place}, fs.root.kindAt? place = some .directory → later.root.kindAt? place = some .directory
  file : ∀ {place content}, fs.root.kindAt? place = some (.file content) →
    ∃ new, later.root.kindAt? place = some (.file new)
  link : ∀ {place target}, fs.root.kindAt? place = some (.link target) →
    later.root.kindAt? place = some (.link target)

namespace Extends

variable {fs mid later : Files} {place : Place}

theorem refl (fs : Files) : fs.Extends fs := ⟨rfl,id,fun found => ⟨_,found⟩,id⟩

theorem trans (first : fs.Extends mid) (second : mid.Extends later) : fs.Extends later := by
  refine ⟨second.working.trans first.working,fun found => second.directory (first.directory found),?_,
    fun found => second.link (first.link found)⟩
  intro place content found
  obtain ⟨new,own⟩ := first.file found
  exact second.file own

theorem at?_directory (grown : fs.Extends later) {entries : List (Text × Node)}
    (found : fs.root.at? place = some (.directory entries)) : ∃ more, later.root.at? place = some (.directory more) := by
  obtain ⟨n,own,same⟩ := Option.map_eq_some_iff.mp (grown.directory (by rw [kindAt?,found]; rfl))
  obtain ⟨more,rfl⟩ := kind_eq_directory same
  exact ⟨more,own⟩

theorem at?_file (grown : fs.Extends later) {content : Bytes} (found : fs.root.at? place = some (.file content)) :
    ∃ new, later.root.at? place = some (.file new) := by
  obtain ⟨new,kept⟩ := grown.file (by rw [kindAt?,found]; rfl)
  obtain ⟨n,own,same⟩ := Option.map_eq_some_iff.mp kept
  exact ⟨new,own.trans (congrArg some (kind_eq_file same))⟩

theorem at?_link (grown : fs.Extends later) {target : Text} (found : fs.root.at? place = some (.link target)) :
    later.root.at? place = some (.link target) := by
  obtain ⟨n,own,same⟩ := Option.map_eq_some_iff.mp (grown.link (by rw [kindAt?,found]; rfl))
  exact own.trans (congrArg some (kind_eq_link same))

theorem isGrounded (grown : fs.Extends later) (grounded : fs.IsGrounded) : later.IsGrounded := by
  unfold IsGrounded
  rw [grown.working]
  exact grown.directory grounded

end Extends

/-- A tree grows when a directory is put where there is nothing, or a file where there is no more than a file. -/
theorem extends_put {fs : Files} {place : Place} (accepts : fs.root.Accepts place) {new : Node}
    (fits : (new = .emptyDirectory ∧ fs.root.at? place = none) ∨ ∃ content, new = .file content) :
    fs.Extends { fs with root := fs.root.put place new } := by
  have leaf : new.entries = [] := by
    rcases fits with ⟨rfl,_⟩ | ⟨content,rfl⟩ <;> rfl
  have after := kindAt?_put accepts leaf
  have outside {other : Place} {k : Kind} (found : fs.root.kindAt? other = some k)
      (noFile : ∀ old, k ≠ .file old) : other ≠ place := by
    rintro rfl
    rcases accepts.kindAt? with none | ⟨old,file⟩
    · cases none.symm.trans found
    · exact noFile old (Option.some.inj (found.symm.trans file))
  refine ⟨rfl,fun {other} found => ?_,fun {other content} found => ?_,fun {other target} found => ?_⟩
  · rw [after,if_neg (outside found (by rintro _ ⟨⟩)),found]
  · rw [after]
    split
    · rename_i same
      rcases fits with ⟨_,none⟩ | ⟨content,rfl⟩
      · rw [same,kindAt?,none] at found
        cases found
      · exact ⟨content,rfl⟩
    · exact ⟨content,found⟩
  · rw [after,if_neg (outside found (by rintro _ ⟨⟩)),found]

section Later

variable {fs later : Files} {place : Place} {new : Node}

/-- A way that ended at a place ends at what stands there later, and a way up to a link is what it was. -/
theorem stretch_later (grown : fs.Extends later) (stands : later.root.at? place = some new)
    (noLink : ∀ target, new ≠ .link target) {here : Place} {n m : Node} (start : fs.root.at? here = some n)
    (restart : later.root.at? here = some m) (names : List Text) :
    (∀ r, fs.stretch true here n names = .reached r → r.EndsAt place →
      later.stretch true here m names = .reached (.node place new)) ∧
    ∀ around target rest, fs.stretch true here n names = .link around target rest →
      later.stretch true here m names = .link around target rest := by
  induction names generalizing here n m with
  | nil =>
    refine ⟨?_,by rintro _ _ _ ⟨⟩⟩
    rintro r ⟨⟩ rfl
    rw [Option.some.inj (restart.symm.trans stands)]
    rfl
  | cons name rest ih =>
    cases n with
    | file old => exact ⟨by rintro r ⟨⟩ ⟨⟩,by rintro _ _ _ ⟨⟩⟩
    | link target => exact ⟨by rintro r ⟨⟩ ⟨⟩,by rintro _ _ _ ⟨⟩⟩
    | directory entries =>
      -- A directory is one still, so the second way goes on below it as well.
      obtain ⟨more,again⟩ := grown.at?_directory start
      rw [again] at restart
      cases restart
      have below := at?_entry start name
      have behind := at?_entry again name
      rw [stretch,stretch]
      by_cases around : name = aroundName
      · rw [if_pos around,if_pos around]
        obtain ⟨outer,found⟩ := at?_dropLast start
        obtain ⟨other,refound⟩ := at?_dropLast again
        rw [found,refound]
        exact ih found refound
      rw [if_neg around,if_neg around]
      by_cases long : maxNameOctets < octetCount name
      · rw [if_pos long]
        exact ⟨by rintro r ⟨⟩ ⟨⟩,by rintro _ _ _ ⟨⟩⟩
      rw [if_neg long,if_neg long]
      cases own : Node.entry? (.directory entries) name with
      | none =>
        refine ⟨?_,by rintro _ _ _ ⟨⟩⟩
        rintro r ⟨⟩ ends
        cases rest with
        | nil =>
          have last : here ++ [name] = place := ends
          have entry : Node.entry? (.directory more) name = some new := by rw [← behind,last,stands]
          rw [entry,← last]
          cases new with
          | link target => exact absurd rfl (noLink target)
          | _ => rfl
        | cons next others => cases ends
      | some child =>
        have found := below.trans own
        cases child with
        | link target =>
          have same := behind.symm.trans (grown.at?_link found)
          rw [same]
          refine ⟨?_,by simp⟩
          intro r way
          simp at way
        | file old =>
          obtain ⟨content,refound⟩ := grown.at?_file found
          rw [behind.symm.trans refound]
          exact ih found refound
        | directory inner =>
          obtain ⟨content,refound⟩ := grown.at?_directory found
          rw [behind.symm.trans refound]
          exact ih found refound

theorem followNames_later (grown : fs.Extends later) (stands : later.root.at? place = some new)
    (noLink : ∀ target, new ≠ .link target) (toWrite : Bool) (links : Nat) (forDirectory : Bool) {here : Place}
    (start : ∃ n, fs.root.at? here = some n) (restart : ∃ n, later.root.at? here = some n) (names : List Text)
    (ends : (fs.followNames true toWrite links forDirectory here names).EndsAt place) :
    later.followNames true toWrite links forDirectory here names = .node place new := by
  obtain ⟨n,found⟩ := start
  obtain ⟨m,refound⟩ := restart
  obtain ⟨toPlace,toLink⟩ := stretch_later grown stands noLink found refound names
  have outer := fs.stretch_isFound true found names
  have again := later.stretch_isFound true refound names
  cases way : fs.stretch true here n names with
  | reached r =>
    rw [way] at outer
    rw [followNames_reached found way] at ends
    cases forDirectory with
    | false => exact followNames_reached refound (toPlace r way ends) links
    | true =>
      obtain ⟨entries,rfl⟩ := Reached.eq_directory_of_asked ends
      obtain ⟨more,kept⟩ := grown.at?_directory outer
      obtain rfl : new = .directory more := Option.some.inj (stands.symm.trans kept)
      exact followNames_reached refound (toPlace _ way ends) links
  | link around target rest =>
    have same := toLink around target rest way
    rw [way] at outer
    rw [same] at again
    cases links with
    | zero =>
      rw [followNames_link_zero found way] at ends
      cases ends
    | succ links =>
      have next := followNames_link_succ toWrite forDirectory found way links
      have other := followNames_link_succ toWrite forDirectory refound same links
      split at next
      · obtain ⟨f,refused⟩ := next
        rw [refused] at ends
        cases ends
      · rename_i passed
        rw [if_neg passed] at other
        rw [next] at ends
        rw [other]
        exact followNames_later grown stands noLink _ links _ (at?_origin outer _) (at?_origin again _) _ ends

theorem reach_later (grounded : fs.IsGrounded) (grown : fs.Extends later) (stands : later.root.at? place = some new)
    (noLink : ∀ target, new ≠ .link target) (toWrite : Bool) (p : Path) (ends : (fs.reach true toWrite p).EndsAt place) :
    later.reach true toWrite p = .node place new := by
  have restart := (grown.isGrounded grounded).origin p
  unfold reach at ends ⊢
  split at ends
  · cases ends
  · rename_i short
    rw [if_neg short]
    rw [grown.working] at restart ⊢
    exact followNames_later grown stands noLink toWrite maxLinks false (grounded.origin p) restart p.names ends

/-- A path leads to the same place as before. -/
theorem follow_later (grounded : fs.IsGrounded) (grown : fs.Extends later) (stands : later.root.at? place = some new)
    (noLink : ∀ target, new ≠ .link target) (p : Path) (ends : (fs.follow true p).EndsAt place) :
    later.follow true p = .node place new :=
  reach_later grounded grown stands noLink false p ends

end Later

theorem isDirectory_iff {fs : Files} {p : Path} :
    fs.isDirectory p = true ↔ ∃ place entries, fs.follow true p = .node place (.directory entries) := by
  unfold isDirectory exists?
  cases fs.follow true p with
  | node place n => cases n <;> simp
  | _ => simp

/-- Directories that stand do so in a tree that has grown. -/
theorem Extends.isDirectory {fs later : Files} (grown : fs.Extends later) (grounded : fs.IsGrounded) {p : Path}
    (stands : fs.isDirectory p = true) : later.isDirectory p = true := by
  have sound := follow_isFound grounded true p
  obtain ⟨place,entries,way⟩ := isDirectory_iff.mp stands
  rw [way] at sound
  obtain ⟨more,again⟩ := grown.at?_directory sound
  exact isDirectory_iff.mpr ⟨place,more,follow_later grounded grown again (by rintro _ ⟨⟩) p (by rw [way]; rfl)⟩

/-! ### Writing -/

/-- Writing puts the file where the path leads, and that is a place which accepts it. -/
theorem exists_put_of_write {fs later : Files} (grounded : fs.IsGrounded) {p : Path} {content : Bytes}
    (run : fs.write p content = .ok later) :
    ∃ place, fs.root.Accepts place ∧ (fs.followToWrite p).EndsAt place ∧
      (∀ other entries, fs.followToWrite p ≠ .node other (.directory entries)) ∧
      later = { fs with root := fs.root.put place (.file content) } := by
  have sound := follow_isFound grounded true p
  unfold write at run
  split at run
  · cases run
  · split at run
    · rename_i place old way
      have ends : (fs.followToWrite p).EndsAt place := by rw [way]; rfl
      rw [follow_of_followToWrite ends] at sound
      rw [way] at sound ⊢
      cases run
      exact ⟨place,accepts_of_file sound,rfl,by rintro _ _ ⟨⟩,rfl⟩
    · cases run
    · rename_i around name way
      have ends : (fs.followToWrite p).EndsAt (around ++ [name]) := by rw [way]; rfl
      rw [follow_of_followToWrite ends] at sound
      rw [way] at sound ⊢
      cases run
      obtain ⟨entries,found,absent⟩ := sound
      exact ⟨around ++ [name],accepts_of_absent found absent,rfl,by rintro _ _ ⟨⟩,rfl⟩
    · cases run

/-- A path leads to the file that was written there. -/
theorem followToWrite_of_write {fs later : Files} (grounded : fs.IsGrounded) {p : Path} {content : Bytes}
    (run : fs.write p content = .ok later) : ∃ place, later.followToWrite p = .node place (.file content) := by
  obtain ⟨place,accepts,ends,_,rfl⟩ := exists_put_of_write grounded run
  have kind := kindAt?_put accepts (rfl : (Node.file content).entries = []) place
  rw [if_pos rfl] at kind
  obtain ⟨n,stands,file⟩ := Option.map_eq_some_iff.mp kind
  cases kind_eq_file file
  exact ⟨place,reach_later grounded (extends_put accepts (.inr ⟨content,rfl⟩)) stands (by rintro _ ⟨⟩) true p ends⟩

/-- What was written may be written again. -/
theorem write_again {fs later : Files} (grounded : fs.IsGrounded) {p : Path} {content : Bytes}
    (run : fs.write p content = .ok later) : later.write p content = .ok later := by
  obtain ⟨place,way⟩ := followToWrite_of_write grounded run
  have kept : later.IsGrounded := by
    obtain ⟨_,accepts,_,_,rfl⟩ := exists_put_of_write grounded run
    exact (extends_put accepts (.inr ⟨content,rfl⟩)).isGrounded grounded
  have stands := follow_isFound kept true p
  have ends : (later.followToWrite p).EndsAt place := by rw [way]; rfl
  rw [follow_of_followToWrite ends,way] at stands
  unfold write at run ⊢
  split at run
  · cases run
  · rw [way]
    dsimp only
    rw [put_self stands]

/-- A file that was written is read back under the path that it was written to. -/
theorem read_of_write {fs later : Files} (grounded : fs.IsGrounded) {p : Path} {content : Bytes}
    (run : fs.write p content = .ok later) : later.read p = .ok content := by
  obtain ⟨place,way⟩ := followToWrite_of_write grounded run
  have ends : (later.followToWrite p).EndsAt place := by rw [way]; rfl
  unfold write at run
  unfold read
  split at run
  · cases run
  · rw [follow_of_followToWrite ends,way]

/-- What is to be written is of no account for whether the tree refuses it. -/
theorem write_refused {fs : Files} {p : Path} {content : Bytes} {e : FileError} (run : fs.write p content = .error e)
    (other : Bytes) : fs.write p other = .error e := by
  unfold write at run ⊢
  split at run
  · exact run
  · split at run
    · cases run
    · exact run
    · cases run
    · exact run

/-! ### Directories -/

/-- A directory is put where the path leads, and nothing stood there. -/
theorem exists_put_of_makeDirectory {fs later : Files} (grounded : fs.IsGrounded) {p : Path}
    (run : fs.makeDirectory p = .ok later) :
    ∃ place, fs.root.Accepts place ∧ (fs.follow true p).EndsAt place ∧ fs.root.at? place = none ∧
      later = { fs with root := fs.root.put place .emptyDirectory } := by
  have sound := follow_isFound grounded false p
  unfold Files.makeDirectory at run
  split at run
  · cases run
  · rename_i around name way
    rw [way] at sound
    cases run
    obtain ⟨entries,found,absent⟩ := sound
    rcases fs.follow_false p with same | ⟨place,target,link⟩
    · rw [← same,way]
      exact ⟨around ++ [name],accepts_of_absent found absent,rfl,(at?_entry found name).trans absent,rfl⟩
    · cases way.symm.trans link
  · cases run

/-- A directory that was made stands. -/
theorem isDirectory_of_makeDirectory {fs later : Files} (grounded : fs.IsGrounded) {p : Path}
    (run : fs.makeDirectory p = .ok later) : later.isDirectory p = true := by
  obtain ⟨place,accepts,ends,none,rfl⟩ := exists_put_of_makeDirectory grounded run
  have kind := kindAt?_put accepts (rfl : Node.emptyDirectory.entries = []) place
  rw [if_pos rfl] at kind
  obtain ⟨n,stands,same⟩ := Option.map_eq_some_iff.mp kind
  obtain ⟨entries,rfl⟩ := kind_eq_directory same
  exact isDirectory_iff.mpr
    ⟨place,entries,follow_later grounded (extends_put accepts (.inl ⟨rfl,none⟩)) stands (by rintro _ ⟨⟩) p ends⟩

/-- The working directory outlives a new directory. -/
theorem IsGrounded.makeDirectory {fs later : Files} {p : Path} (grounded : fs.IsGrounded)
    (run : fs.makeDirectory p = .ok later) : later.IsGrounded := by
  obtain ⟨place,accepts,_,none,rfl⟩ := exists_put_of_makeDirectory grounded run
  exact (extends_put accepts (.inl ⟨rfl,none⟩)).isGrounded grounded

/-- The tree stays as it is where a directory may stand already, -/
theorem standing_fst (fs : Files) (p : Path) (f : FileFault) : (fs.standing p f).1 = fs := by
  unfold standing
  split
  · rfl
  · split <;> rfl

/-- and the directory does stand unless it is refused. -/
theorem isDirectory_of_standing {fs later : Files} {p : Path} {f : FileFault} (stands : fs.standing p f = (later,.ok ())) :
    later.isDirectory p = true := by
  unfold standing at stands
  split at stands
  · cases stands
  · split at stands
    · rename_i place entries way
      cases stands
      exact isDirectory_iff.mpr ⟨place,entries,way⟩
    · cases stands
    · cases stands

/-- What outlives every directory that is made outlives the making of several. -/
theorem makeDirectories_keeps {P : Files → Prop}
    (step : ∀ {fs later : Files} {p : Path}, P fs → fs.makeDirectory p = .ok later → P later) {fs : Files} (start : P fs)
    (fuel : Nat) (p : Path) : P (fs.makeDirectories fuel p).1 := by
  induction fuel generalizing fs p with
  | zero => exact start
  | succ fuel ih =>
    unfold Files.makeDirectories
    split
    · rename_i made
      exact step start made
    · split
      · exact start
      · have outer := ih start p.parent
        split
        · rename_i stopped
          rw [stopped] at outer
          exact outer
        · rename_i done
          rw [done] at outer
          split
          · rename_i made
            exact step outer made
          · rwa [standing_fst]
    · rwa [standing_fst]

theorem ensureDirectory_keeps {P : Files → Prop}
    (step : ∀ {fs later : Files} {p : Path}, P fs → fs.makeDirectory p = .ok later → P later) {fs : Files} (start : P fs)
    (p : Path) : P (fs.ensureDirectory p).1 := by
  unfold Files.ensureDirectory
  split
  · exact start
  · exact makeDirectories_keeps step start _ p

/-- A directory that was asked for stands afterwards. -/
theorem isDirectory_of_ensureDirectory {fs later : Files} (grounded : fs.IsGrounded) {p : Path}
    (run : fs.ensureDirectory p = (later,.ok ())) : later.isDirectory p = true := by
  unfold Files.ensureDirectory at run
  split at run
  · cases run
  · unfold Files.makeDirectories at run
    split at run
    · rename_i made
      cases run
      exact isDirectory_of_makeDirectory grounded made
    · split at run
      · cases run
      · have outer := makeDirectories_keeps IsGrounded.makeDirectory grounded p.names.length p.parent
        split at run
        · cases run
        · rename_i done
          rw [done] at outer
          split at run
          · rename_i made
            cases run
            exact isDirectory_of_makeDirectory outer made
          · exact isDirectory_of_standing run
    · exact isDirectory_of_standing run

/-- The working directory outlives new directories. -/
theorem IsGrounded.ensureDirectory {fs : Files} (grounded : fs.IsGrounded) (p : Path) :
    (fs.ensureDirectory p).1.IsGrounded :=
  ensureDirectory_keeps IsGrounded.makeDirectory grounded p

end Files

end ApiDocs
