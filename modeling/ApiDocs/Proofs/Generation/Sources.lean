import ApiDocs.Proofs.Extraction.Directives
import ApiDocs.Proofs.Files.Scan
import ApiDocs.Proofs.Result
import Mathlib.Data.List.Forall2

/-!
Reading the source files below a path. They are read in the order of the scan; when all of them document their endpoints,
these come one file after the other (`extractEach_ok`), and otherwise the first file that does not ends everything,
whatever stands behind it (`extractEach_error`).
-/
namespace ApiDocs

namespace Files

/-- The places of the source files below a path, in the order of the scan. -/
def sources (fs : Files) (root : Path) (config : Config) : Except ResolveError (List Place) :=
  match fs.resolve root with
  | .error e => .error e
  | .ok place => fs.scan ⟨1,place⟩ config.pattern none

/-- What comes of reading the file at a place. -/
def extracted (fs : Files) (place : Place) : Except GenerationError (List Endpoint) :=
  (fs.extractFile (Path.ofText place.toText)).result

theorem extractEach_cons (fs : Files) (place : Place) (rest : List Place) :
    (fs.extractEach ((place :: rest).map Place.toText)).result =
      match fs.extracted place with
      | .error e => .error e
      | .ok found => (fs.extractEach (rest.map Place.toText)).result.map (found ++ ·) := by
  simp only [List.map_cons,extractEach,Logged.andThen,extracted]
  cases (fs.extractFile (Path.ofText place.toText)).result with
  | error e => rfl
  | ok found =>
    dsimp only
    cases (fs.extractEach (rest.map Place.toText)).result <;> rfl

/-- Files that each document their endpoints document them one after the other. -/
theorem extractEach_ok (fs : Files) (places : List Place) (found : List Endpoint) :
    (fs.extractEach (places.map Place.toText)).result = .ok found ↔
      ∃ each, List.Forall₂ (fun place es => fs.extracted place = .ok es) places each ∧ found = each.flatten := by
  induction places generalizing found with
  | nil =>
    constructor
    · intro run
      cases run
      exact ⟨[],.nil,rfl⟩
    · rintro ⟨each,all,rfl⟩
      cases all
      rfl
  | cons place rest ih =>
    rw [extractEach_cons]
    constructor
    · intro run
      cases first : fs.extracted place with
      | error e => rw [first] at run; cases run
      | ok es =>
        rw [first] at run
        obtain ⟨later,more,rfl⟩ := map_eq_ok run
        obtain ⟨each,all,rfl⟩ := (ih later).mp more
        exact ⟨es :: each,.cons first all,rfl⟩
    · rintro ⟨each,all,rfl⟩
      cases all with
      | cons first later =>
        rw [first]
        dsimp only
        rw [(ih _).mpr ⟨_,later,rfl⟩]
        rfl

/-- The first file that does not document its endpoints decides the error, whatever is in the files behind it. -/
theorem extractEach_error (fs : Files) (places : List Place) (e : GenerationError) :
    (fs.extractEach (places.map Place.toText)).result = .error e ↔
      ∃ before place after, places = before ++ place :: after ∧
        (∀ earlier ∈ before, ∃ es, fs.extracted earlier = .ok es) ∧ fs.extracted place = .error e := by
  induction places with
  | nil =>
    constructor
    · intro run
      cases run
    · rintro ⟨before,place,after,split,_⟩
      simp at split
  | cons place rest ih =>
    rw [extractEach_cons]
    cases first : fs.extracted place with
    | error f =>
      constructor
      · intro run
        cases run
        exact ⟨[],place,rest,rfl,by simp,first⟩
      · rintro ⟨before,failing,after,split,sound,failed⟩
        cases before with
        | nil =>
          cases split
          exact first.symm.trans failed
        | cons earlier more =>
          cases split
          obtain ⟨es,fine⟩ := sound place List.mem_cons_self
          cases first.symm.trans fine
    | ok es =>
      have step : (fs.extractEach (rest.map Place.toText)).result.map (es ++ ·) = .error e ↔
          (fs.extractEach (rest.map Place.toText)).result = .error e := by
        cases (fs.extractEach (rest.map Place.toText)).result <;> simp [Except.map]
      refine step.trans (ih.trans ⟨?_,?_⟩)
      · rintro ⟨before,failing,after,rfl,sound,failed⟩
        exact ⟨place :: before,failing,after,rfl,List.forall_mem_cons.mpr ⟨⟨es,first⟩,sound⟩,failed⟩
      · rintro ⟨before,failing,after,split,sound,failed⟩
        cases before with
        | nil =>
          cases split
          cases first.symm.trans failed
        | cons earlier more =>
          cases split
          exact ⟨more,failing,after,rfl,fun other member => sound other (List.mem_cons_of_mem _ member),failed⟩

/-- What comes of the files below a path is settled by the scan and by the files in their order. -/
theorem extractTree_result (fs : Files) (root : Path) (config : Config) :
    (fs.extractTree root config).result =
      match fs.sources root config with
      | .error e => .error (.resolve e)
      | .ok [] => .error (.noFiles config.pattern)
      | .ok (place :: rest) =>
        (fs.extractEach ((place :: rest).map Place.toText)).result.map fun found => (place :: rest,found) := by
  unfold extractTree sources
  cases fs.resolve root with
  | error e => rfl
  | ok here =>
    dsimp only
    cases fs.scan ⟨1,here⟩ config.pattern none with
    | error e => rfl
    | ok places =>
      cases places with
      | nil => rfl
      | cons place rest =>
        simp only [Logged.andThen,extractFiles,List.map_cons,List.isEmpty_cons,Bool.false_eq_true,↓reduceIte]
        cases (fs.extractEach (place.toText :: rest.map Place.toText)).result <;> rfl

/-- The endpoints below a path are those of the scanned files, one file after the other. -/
theorem extractTree_ok (fs : Files) (root : Path) (config : Config) (places : List Place) (found : List Endpoint) :
    (fs.extractTree root config).result = .ok (places,found) ↔
      fs.sources root config = .ok places ∧ places ≠ [] ∧
      ∃ each, List.Forall₂ (fun place es => fs.extracted place = .ok es) places each ∧ found = each.flatten := by
  rw [extractTree_result]
  constructor
  · intro read
    split at read
    · cases read
    · cases read
    · rename_i place rest scanned
      obtain ⟨endpoints,run,same⟩ := map_eq_ok read
      cases same
      exact ⟨scanned,List.cons_ne_nil place rest,(extractEach_ok fs (place :: rest) found).mp run⟩
  · rintro ⟨scanned,filled,read⟩
    obtain ⟨place,rest,rfl⟩ := List.exists_cons_of_ne_nil filled
    rw [scanned]
    dsimp only
    rw [(extractEach_ok fs (place :: rest) found).mpr read]
    rfl

/-- Of the settings only the pattern is of account for the source files. -/
theorem sources_congr {a b : Config} (same : a.pattern = b.pattern) (fs : Files) (root : Path) :
    fs.sources root a = fs.sources root b := by
  unfold sources
  rw [same]

theorem extractTree_congr {a b : Config} (same : a.pattern = b.pattern) (fs : Files) (root : Path) :
    fs.extractTree root a = fs.extractTree root b := by
  unfold extractTree
  rw [same]

/-- Source files that cannot be read leave a registry without their endpoints. -/
theorem registration_of_error {fs : Files} {root : Path} {config : Config} {e : GenerationError}
    (failed : (fs.extractTree root config).result = .error e) (r : Registry) :
    (fs.registration root config r).registry = r ∧ (fs.register root config r).result = .error e := by
  unfold register registration
  dsimp only
  rw [failed]
  exact ⟨rfl,rfl⟩

/-- A run whose source files are read registers their endpoints and saves the documentation. -/
theorem generate_of_read {fs : Files} {root : Path} {config : Config} {places : List Place} {found : List Endpoint}
    (read : (fs.extractTree root config).result = .ok (places,found)) (directory : Option Path) (r : Registry) :
    (fs.generate root config directory r).tree = (fs.save (r.load found).snapshot config directory).1 ∧
    (fs.generate root config directory r).registry = r.load found ∧
    (fs.generate root config directory r).outcome.result =
      ((fs.save (r.load found).snapshot config directory).2.result.map fun path =>
        ⟨places.length,found,path⟩).mapError .save := by
  unfold generate
  dsimp only
  rw [read]
  exact ⟨rfl,rfl,rfl⟩

/-- A run whose source files cannot be read ends with the error, before anything is registered or written. -/
theorem generate_of_error {fs : Files} {root : Path} {config : Config} {e : GenerationError}
    (failed : (fs.extractTree root config).result = .error e) (directory : Option Path) (r : Registry) :
    (fs.generate root config directory r).tree = fs ∧ (fs.generate root config directory r).registry = r ∧
    (fs.generate root config directory r).outcome.result = .error e := by
  unfold generate
  dsimp only
  rw [failed]
  exact ⟨rfl,rfl,rfl⟩

/-- A run that succeeds has read the source files and saved the registry with their endpoints. -/
theorem generate_ok {fs : Files} {root : Path} {config : Config} {directory : Option Path} {r : Registry}
    {g : Generated} (succeeds : (fs.generate root config directory r).outcome.result = .ok g) :
    ∃ places, (fs.extractTree root config).result = .ok (places,g.endpoints) ∧ g.files = places.length ∧
      (fs.save (r.load g.endpoints).snapshot config directory).2.result = .ok g.output ∧
      (fs.generate root config directory r).tree = (fs.save (r.load g.endpoints).snapshot config directory).1 := by
  cases read : (fs.extractTree root config).result with
  | error e => cases succeeds.symm.trans (generate_of_error read directory r).2.2
  | ok pair =>
    obtain ⟨places,found⟩ := pair
    obtain ⟨tree,_,outcome⟩ := generate_of_read read directory r
    rw [succeeds] at outcome
    cases saved : (fs.save (r.load found).snapshot config directory).2.result with
    | error e => rw [saved] at outcome; cases outcome
    | ok path =>
      rw [saved] at outcome
      cases outcome
      exact ⟨places,rfl,rfl,saved,tree⟩

end Files

/-- An endpoint from a docstring brings no samples. -/
theorem Endpoint.responses_ofDocstring (handler doc : Text) : (ofDocstring handler doc).responses = [] := by
  rw [ofDocstring,foldl_add]

/-- The endpoints of a file bring no samples. -/
theorem Files.responses_of_extracted {fs : Files} {place : Place} {es : List Endpoint}
    (found : fs.extracted place = .ok es) : ∀ e ∈ es, e.responses = [] := by
  intro e member
  cases stored : fs.read (Path.ofText place.toText) with
  | error fault =>
    unfold extracted extractFile at found
    rw [stored] at found
    cases fault <;> cases found
  | ok content =>
    have ends := extractFile_correct stored
    unfold extracted at found
    rw [found] at ends
    obtain ⟨ds,_,_,rfl⟩ := ends
    obtain ⟨d,_,rfl⟩ := List.mem_map.mp member
    exact Endpoint.responses_ofDocstring d.name d.doc

theorem Files.responses_of_each {fs : Files} {places : List Place} {each : List (List Endpoint)}
    (all : List.Forall₂ (fun place es => fs.extracted place = .ok es) places each) :
    ∀ e ∈ each.flatten, e.responses = [] := by
  induction all with
  | nil => simp
  | cons first _ ih => exact List.forall_mem_append.mpr ⟨responses_of_extracted first,ih⟩

theorem Files.responses_of_extractTree {fs : Files} {root : Path} {config : Config} {places : List Place}
    {found : List Endpoint} (read : (fs.extractTree root config).result = .ok (places,found)) :
    ∀ e ∈ found, e.responses = [] := by
  obtain ⟨_,_,each,all,joined⟩ := (extractTree_ok fs root config places found).mp read
  exact joined ▸ responses_of_each all

end ApiDocs
