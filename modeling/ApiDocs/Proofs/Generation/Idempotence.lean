import ApiDocs.Proofs.DocsFile.Saving
import ApiDocs.Proofs.Files.Scan
import ApiDocs.Proofs.Generation.Sources
import ApiDocs.Proofs.Render.Outcome

/-!
Generating documentation twice. A tree without links that grows by directories, and by a file whose name does not match the
pattern, is scanned to the same places, and what is in the files there does not change (`Files.Grows`). Saving does no more
than that (`Files.grows_save`), and saving the same again changes nothing. So a second run ends as the first one did, and
leaves the tree as it is (`generate_again`).
-/
namespace ApiDocs

namespace Files

open Node

/-! ### Growth that a scan passes over -/

/-- A second plain tree has what the first one has, is scanned below each place to the same places, and has the same in each
    file whose name matches. -/
structure Grows (pattern : Text) (fs later : Files) : Prop where
  grounded : later.IsGrounded
  plain : later.root.IsPlain
  extended : fs.Extends later
  scanned : ∀ {place n}, fs.root.at? place = some n → ∃ m, later.root.at? place = some m ∧
    ∀ here, later.matching pattern here m = fs.matching pattern here n
  kept : ∀ {place name content}, place.getLast? = some name → Glob.accepts pattern name = true →
    fs.root.at? place = some (.file content) → later.root.at? place = some (.file content)

namespace Grows

variable {pattern : Text} {fs mid later : Files}

theorem refl (grounded : fs.IsGrounded) (plain : fs.root.IsPlain) : Grows pattern fs fs :=
  ⟨grounded,plain,.refl fs,fun found => ⟨_,found,fun _ => rfl⟩,fun _ _ found => found⟩

/-- Leaves that a scan passes over may be put into the tree. -/
theorem put (grown : Grows pattern fs mid) {place : Place} (accepts : mid.root.Accepts place) {new : Node}
    (unseen : IsPassedOver pattern mid.root place new) :
    Grows pattern fs { mid with root := mid.root.put place new } := by
  have extended : mid.Extends { mid with root := mid.root.put place new } :=
    extends_put accepts (unseen.imp_right And.left)
  refine ⟨extended.isGrounded grown.grounded,grown.plain.put accepts unseen.isPlain,grown.extended.trans extended,?_,?_⟩
  · intro other n found
    obtain ⟨m,stands,same⟩ := grown.scanned found
    obtain ⟨more,again,alike⟩ := exists_matching_put grown.plain accepts unseen stands
    refine ⟨more,again,fun here => ?_⟩
    rw [matching_congr ((grown.plain.put accepts unseen.isPlain).at? again) mid,alike,same]
  · intro other name content last fits found
    have before := grown.kept last fits found
    have elsewhere : other ≠ place := by
      rintro rfl
      rcases unseen with ⟨_,absent⟩ | ⟨_,foreign⟩
      · cases absent.symm.trans before
      · exact absurd (foreign name last) (by simp [fits])
    have after := kindAt?_put accepts unseen.isLeaf other
    rw [if_neg elsewhere,kindAt?,kindAt?,before] at after
    obtain ⟨n,stands,kind⟩ := Option.map_eq_some_iff.mp after
    exact stands.trans (congrArg some (kind_eq_file kind))

theorem makeDirectory {p : Path} (grown : Grows pattern fs mid) (run : mid.makeDirectory p = .ok later) :
    Grows pattern fs later := by
  obtain ⟨place,accepts,_,absent,rfl⟩ := exists_put_of_makeDirectory grown.grounded run
  exact grown.put accepts (.inl ⟨rfl,absent⟩)

theorem ensureDirectory (grown : Grows pattern fs mid) (p : Path) : Grows pattern fs (mid.ensureDirectory p).1 :=
  ensureDirectory_keeps makeDirectory grown p

/-- A file whose name does not match may be written. -/
theorem write {p : Path} {content : Bytes} (grown : Grows pattern fs mid) (outside : Glob.accepts pattern p.name = false)
    (run : mid.write p content = .ok later) : Grows pattern fs later := by
  obtain ⟨place,accepts,ends,noDirectory,rfl⟩ := exists_put_of_write grown.grounded run
  have same := follow_of_followToWrite ends
  rw [← same] at ends noDirectory
  have last := follow_last grown.grounded grown.plain ends noDirectory
  refine grown.put accepts (.inr ⟨⟨content,rfl⟩,fun name own => ?_⟩)
  rwa [Path.name,← last,own] at outside

/-- What is resolved is resolved to the same place. -/
theorem resolve (grown : Grows pattern fs later) (grounded : fs.IsGrounded) (plain : fs.root.IsPlain) (p : Path) :
    later.resolve p = fs.resolve p := by
  rw [resolve_of_isPlain grown.grounded grown.plain,resolve_of_isPlain grounded plain,grown.extended.working]

theorem resolveSome (grown : Grows pattern fs later) (grounded : fs.IsGrounded) (plain : fs.root.IsPlain)
    (limit : Option Int) (places : List Place) : later.resolveSome limit places = fs.resolveSome limit places := by
  induction places generalizing limit with
  | nil => rfl
  | cons place rest ih => rw [Files.resolveSome,Files.resolveSome,grown.resolve grounded plain,ih]

/-- Source files that were found are found again. -/
theorem sources {root : Path} {config : Config} {places : List Place} (grown : Grows config.pattern fs later)
    (grounded : fs.IsGrounded) (plain : fs.root.IsPlain) (found : fs.sources root config = .ok places)
    (filled : places ≠ []) : later.sources root config = .ok places := by
  unfold Files.sources at found ⊢
  rw [grown.resolve grounded plain]
  split
  · rename_i failed
    rw [failed] at found
    cases found
  · rename_i place resolved
    rw [resolved] at found
    dsimp only at found
    unfold Files.scan at found ⊢
    split at found
    · cases found
    · have sound := follow_isFound grounded true ⟨1,place⟩
      cases way : fs.follow true ⟨1,place⟩ with
      | node here n =>
        rw [way] at sound found
        obtain ⟨m,stands,same⟩ := grown.scanned sound
        have noLink := (grown.plain.at? stands).ne_link
        rw [follow_later grounded grown.extended stands noLink _ (by rw [way]; rfl)]
        dsimp only at found ⊢
        rw [same,grown.resolveSome grounded plain]
        exact found
      | _ =>
        rw [way] at found
        exact absurd (Except.ok.inj found).symm filled

/-- What is read under a path whose last name matches is read again. -/
theorem read {p : Path} {name : Text} {content : Bytes} (grown : Grows pattern fs later) (grounded : fs.IsGrounded)
    (plain : fs.root.IsPlain) (last : p.names.getLast? = some name) (fits : Glob.accepts pattern name = true)
    (stored : fs.read p = .ok content) : later.read p = .ok content := by
  unfold Files.read at stored ⊢
  split at stored
  · cases stored
  · have sound := follow_isFound grounded true p
    split at stored
    · rename_i place own way
      cases stored
      rw [way] at sound
      have same : place.getLast? = p.names.getLast? :=
        follow_last grounded plain (by rw [way]; rfl) (by rw [way]; rintro _ _ ⟨⟩)
      have stands := grown.kept (same.trans last) fits sound
      rw [follow_later grounded grown.extended stands (by rintro _ ⟨⟩) p (by rw [way]; rfl)]
    · cases stored
    · cases stored
    · cases stored

end Grows

/-- A tree without links: the working directory is in it, no name stands twice in a directory, and each can stand in a
    path. -/
structure IsOrderly (fs : Files) : Prop where
  grounded : fs.IsGrounded
  plain : fs.root.IsPlain
  named : HasNames fs.root

/-- The places that are scanned go by names that match. -/
theorem IsOrderly.sources {fs : Files} (orderly : fs.IsOrderly) {root : Path} {config : Config} {places : List Place}
    (found : fs.sources root config = .ok places) :
    ∀ place ∈ places, ∃ name, place.getLast? = some name ∧ IsName name ∧ Glob.accepts config.pattern name = true := by
  intro place member
  unfold Files.sources at found
  split at found
  · cases found
  · rename_i around _
    unfold scan at found
    split at found
    · cases found
    · have sound := follow_isFound orderly.grounded true ⟨1,around⟩
      split at found
      · rename_i here n way
        rw [way] at sound
        obtain ⟨matched,among,resolved⟩ := exists_of_mem_resolveSome found member
        obtain ⟨before,name,rfl,fits,content,file⟩ := mem_matching (orderly.plain.at? sound) among
        have isName : IsName name := by
          refine orderly.named (?_ : fs.root.at? (here ++ before ++ [name]) = some (.file content))
          rw [List.append_assoc,at?_append,sound]
          exact file
        refine ⟨name,getLast?_of_resolve orderly.grounded orderly.plain resolved isName ?_,isName,fits⟩
        rw [← List.append_assoc,List.getLast?_concat]
      · cases found
        cases member

/-- Endpoints that were read from a file with a name that matches are read again. -/
theorem Grows.extracted {pattern : Text} {fs later : Files} (grown : Grows pattern fs later) (grounded : fs.IsGrounded)
    (plain : fs.root.IsPlain) {place : Place} {name : Text} (last : place.getLast? = some name) (isName : IsName name)
    (fits : Glob.accepts pattern name = true) {es : List Endpoint} (found : fs.extracted place = .ok es) :
    later.extracted place = .ok es := by
  unfold Files.extracted extractFile at found ⊢
  cases stored : fs.read (Path.ofText place.toText) with
  | error e =>
    rw [stored] at found
    cases e <;> cases found
  | ok content =>
    rw [stored] at found
    rw [grown.read grounded plain (getLast?_ofText isName last) fits stored]
    exact found

/-- The same comes of the source files below a path. -/
theorem Grows.extractTree {fs later : Files} {root : Path} {config : Config} {places : List Place}
    {found : List Endpoint} (grown : Grows config.pattern fs later) (orderly : fs.IsOrderly)
    (read : (fs.extractTree root config).result = .ok (places,found)) :
    (later.extractTree root config).result = .ok (places,found) := by
  obtain ⟨scanned,filled,each,all,joined⟩ := (extractTree_ok fs root config places found).mp read
  refine (extractTree_ok later root config places found).mpr
    ⟨grown.sources orderly.grounded orderly.plain scanned filled,filled,each,?_,joined⟩
  refine ((List.forall₂_and_left places each).mpr ⟨orderly.sources scanned,all⟩).imp fun place es => ?_
  rintro ⟨⟨name,last,isName,fits⟩,own⟩
  exact grown.extracted orderly.grounded orderly.plain last isName fits own

/-- A tree grows when documentation is saved to a file whose name does not match. -/
theorem grows_save {fs : Files} (grounded : fs.IsGrounded) (plain : fs.root.IsPlain) {s : Snapshot} {config : Config}
    {directory : Option Path} {path : Path}
    (outside : Glob.accepts config.pattern (config.output.outputPath config.filename directory).name = false)
    (saved : (fs.save s config directory).2.result = .ok path) :
    Grows config.pattern fs (fs.save s config directory).1 := by
  obtain ⟨content,mid,later,rfl,_,_,made,_,written,same⟩ := exists_write_of_save grounded saved
  have directories : Grows config.pattern fs (fs.ensureDirectory _).1 :=
    (Grows.refl grounded plain).ensureDirectory (config.output.outputPath config.filename directory).parent
  rw [made] at directories
  rw [same]
  exact directories.write outside written

end Files

/-- Generating is idempotent. In a tree without links, when the file with the documentation goes by a name that does not
    match the pattern, a run after one that succeeded succeeds with the same number of files, the same endpoints and the same
    path, and leaves the tree as the first one left it, wherever the file is written. -/
theorem generate_again {fs : Files} (orderly : fs.IsOrderly) (root : Path) (config : Config) (directory : Option Path)
    (outside : Glob.accepts config.pattern (config.output.outputPath config.filename directory).name = false)
    {g : Generated} (succeeds : (fs.generate root config directory .empty).outcome.result = .ok g) :
    let first := fs.generate root config directory .empty
    let second := first.tree.generate root config directory .empty
    second.outcome.result = .ok g ∧ second.tree = first.tree := by
  obtain ⟨places,read,count,saved,tree⟩ := Files.generate_ok succeeds
  have grown := Files.grows_save orderly.grounded orderly.plain outside saved
  obtain ⟨left,_,outcome⟩ := Files.generate_of_read (grown.extractTree orderly read) directory .empty
  rw [Files.save_again orderly.grounded saved] at left outcome
  dsimp only
  rw [tree,outcome,saved,left,← count]
  exact ⟨rfl,rfl⟩

open Files

/-! The documentation is written below the source files, to a directory that the first run makes. -/

private def pageSource : Text := "def a(): '@docs\\n@path /pages\\n@method GET'\n"

private def pageFile : Files := { root := .directory [("src",.directory [("a.py",.file (octetsOf pageSource))])] }

private def below : Path := ⟨0,["src","out"]⟩

private def pageEndpoint : Endpoint := { handler := "a", path := "/pages", method := "GET" }

private def pageRegistry : Registry := Registry.empty.load [pageEndpoint]

private theorem isOrderly_pageFile : pageFile.IsOrderly := by
  have source : IsName "src" ∧ IsName "a.py" := by decide
  refine ⟨rfl,.directory (by decide) ?_,hasNames_directory ?_ ?_⟩ <;> refine List.forall_mem_singleton.mpr ?_
  · exact .directory (by decide) (List.forall_mem_singleton.mpr (.file _))
  · exact source.1
  · exact hasNames_directory (List.forall_mem_singleton.mpr source.2) (List.forall_mem_singleton.mpr (hasNames_file _))

private theorem read_pageFile : (pageFile.extractTree ⟨1,["src"]⟩ {}).result =
    .ok ([["src","a.py"]],[pageEndpoint]) := by
  have scanned : pageFile.sources ⟨1,["src"]⟩ {} = .ok [["src","a.py"]] := by
    show pageFile.resolveSome none (Files.collect ["src"] ((["a.py"] : List Text).map fun name => (name,.file))) = _
    rw [Files.collect_files _ _ (by decide)]
    rfl
  have isModule : Source.IsModule (octetsOf pageSource) [⟨"a",some "@docs\n@path /pages\n@method GET"⟩] :=
    isModule_octets (by decide) (by decide) (by decide +kernel)
  have extracted : pageFile.extracted ["src","a.py"] = .ok [pageEndpoint] :=
    (extractFile_module rfl isModule (by decide)).trans rfl
  exact (Files.extractTree_ok ..).mpr ⟨scanned,by simp,_,.cons extracted .nil,rfl⟩

theorem generate_again_below :
    pageFile.IsOrderly ∧ pageFile.isDirectory below = false ∧
    ∃ g, (pageFile.generate ⟨1,["src"]⟩ {} (some below) .empty).outcome.result = .ok g ∧ g.files = 1 ∧
      let first := (pageFile.generate ⟨1,["src"]⟩ {} (some below) .empty).tree
      first.isDirectory below = true ∧
      (first.generate ⟨1,["src"]⟩ {} (some below) .empty).outcome.result = .ok g ∧
      (first.generate ⟨1,["src"]⟩ {} (some below) .empty).tree = first := by
  have output : Format.json.outputPath ({} : Config).filename (some below) = ⟨0,["src","out","docs.gen.json"]⟩ := by
    decide
  have outside : Glob.accepts ({} : Config).pattern (⟨0,["src","out","docs.gen.json"]⟩ : Path).name = false := by
    decide
  obtain ⟨content,rendered⟩ : ∃ content, pageRegistry.snapshot.render .json = .ok content := by
    have snapshot : pageRegistry.snapshot = [(endpointKey "GET" "/pages",pageEndpoint)] := rfl
    rw [snapshot]
    exact Snapshot.exists_render_of_bare (by simp) (by decide) (by simp [pageEndpoint]) .json
  obtain ⟨mid,made,room⟩ : ∃ mid, pageFile.ensureDirectory below = (mid,.ok ()) ∧
      mid.HasRoom ⟨0,["src","out","docs.gen.json"]⟩ := by
    refine ⟨_,rfl,by decide,rfl,.inr ⟨["src","out"],"docs.gen.json",rfl⟩⟩
  obtain ⟨later,written⟩ := write_of_hasRoom room content
  have saved : (pageFile.save pageRegistry.snapshot {} (some below)).2.result = .ok ⟨0,["src","out","docs.gen.json"]⟩ := by
    rw [save,rendered,output]
    dsimp only [Path.parent,List.dropLast]
    rw [show (⟨0,["src","out"]⟩ : Path) = below from rfl,made]
    dsimp only
    rw [written]
  have outcome := (generate_of_read read_pageFile (some below) .empty).2.2
  rw [show Registry.empty.load _ = pageRegistry from rfl,saved] at outcome
  obtain ⟨again,left⟩ := generate_again isOrderly_pageFile ⟨1,["src"]⟩ {} (some below) (output ▸ outside) outcome
  obtain ⟨places,read,_,savedAgain,tree⟩ := generate_ok outcome
  have stands := isDirectory_of_save isOrderly_pageFile.grounded savedAgain
  rw [← tree] at stands
  exact ⟨isOrderly_pageFile,rfl,_,outcome,rfl,stands,again,left⟩

end ApiDocs
