import ApiDocs.Proofs.Command.Outcome
import ApiDocs.Proofs.DocsFile.Saving
import ApiDocs.Proofs.Generation.Sources
import ApiDocs.Proofs.Render.Outcome

/-!
Generating and listing over the same files. The pattern of a run is the one that is given, or the one that the environment
gives, or the standard one (`Config.pattern_of_check`); generating counts an empty one as given, and listing does not. Where
both have the same pattern the file that is generated holds the rows that are listed, by their keys (`commands_agree`).
-/
namespace ApiDocs

/-! ### Patterns -/

namespace Config

open Validation

/-- A pattern, or the standard one in place of an empty one. -/
def orStandard (t : Text) : Text := if t.isEmpty then ({} : Config).pattern else t

/-- An argument comes before the environment. -/
theorem lookup?_sources {option : Option Text} {others : List (Text × Value)} (environment : List (Text × Text))
    (other : ∀ entry ∈ others, entry.1 ≠ ("pattern" : Text)) :
    Value.lookup? "pattern" (sources (Command.argument "pattern" option ++ others) environment) =
      (option <|> fromEnvironment? environment "pattern").map .str := by
  cases option with
  | some t => simp [sources,Command.argument,Value.lookup?]
  | none =>
    have foreign : others.find? (·.1 = ("pattern" : Text)) = none :=
      List.find?_eq_none.mpr fun entry member => by simpa using other entry member
    have names : ("output" : Text) ≠ "pattern" ∧ ("filename" : Text) ≠ "pattern" ∧ ("log_level" : Text) ≠ "pattern" := by
      decide
    unfold sources Value.lookup? settingNames
    simp only [Command.argument,Option.toList_none,List.map_nil,List.nil_append,List.find?_append,foreign,Option.none_or,
      List.filterMap_cons,List.filterMap_nil]
    cases fromEnvironment? environment "pattern" with
    | some t => simp
    | none =>
      cases fromEnvironment? environment "output" <;> cases fromEnvironment? environment "filename" <;>
        cases fromEnvironment? environment "log_level" <;> simp [names]

theorem of_and_eq_ok {α β : Type} {a : Checked α} {b : Checked β} {both : α × β} (run : a.and b = .ok both) :
    a = .ok both.1 ∧ b = .ok both.2 := by
  cases a <;> cases b <;> cases run
  exact ⟨rfl,rfl⟩

/-- The pattern is the first one that is given, by an argument or else by the environment. -/
theorem pattern_of_check {option : Option Text} {others : List (Text × Value)} {environment : List (Text × Text)}
    (other : ∀ entry ∈ others, entry.1 ≠ ("pattern" : Text)) {config : Config}
    (run : check (Command.argument "pattern" option ++ others) environment = .ok config) :
    config.pattern = orStandard ((option <|> fromEnvironment? environment "pattern").getD []) := by
  unfold check at run
  obtain ⟨⟨pattern,rest⟩,whole,rfl⟩ := map_eq_ok run
  have first := (of_and_eq_ok whole).1
  unfold Validation.optional at first
  simp only [List.findSome?_cons,List.findSome?_nil,lookup?_sources environment other,Option.map_map] at first
  cases given : (option <|> fromEnvironment? environment "pattern") with
  | none =>
    rw [given] at first
    cases first
    rfl
  | some t =>
    rw [given] at first
    cases t with
    | nil =>
      cases first
      rfl
    | cons c more =>
      cases first
      rfl

end Config

namespace Command

theorem Generating.pattern_eq {s : Setting} {r : Generating} {config : Config}
    (settled : configOf s r.arguments = .ok config) :
    config.pattern = Config.orStandard ((r.pattern <|> Config.fromEnvironment? s.environment "pattern").getD []) := by
  have other {name : Text} (foreign : name ≠ ("pattern" : Text)) (value : Option Text) :
      ∀ entry ∈ argument name value, entry.1 ≠ ("pattern" : Text) := by
    intro entry member
    obtain ⟨t,_,rfl⟩ := List.mem_map.mp member
    exact foreign
  have checked := check_of_configOf settled
  simp only [arguments,List.append_assoc] at checked
  refine Config.pattern_of_check ?_ checked
  simp only [List.forall_mem_append]
  exact ⟨other (by decide) _,other (by decide) _,other (by decide) _⟩

theorem Listing.pattern_eq {s : Setting} {r : Listing} {config : Config} (settled : configOf s r.arguments = .ok config) :
    config.pattern = Config.orStandard
      ((r.pattern.filter (!·.isEmpty) <|> Config.fromEnvironment? s.environment "pattern").getD []) := by
  have whole := check_of_configOf settled
  rw [Listing.arguments,← List.append_nil (argument _ _)] at whole
  exact Config.pattern_of_check (by simp) whole

end Command

/-! ### Rows -/

/-- The text in a field of a row. -/
def Value.field (name : Text) (row : Value) : Text :=
  match row.member? name with
  | some (.str t) => t
  | _ => []

/-- The key of a row. -/
def Value.rowKey (row : Value) : Text := endpointKey (row.field "method") (row.field "path")

/-- Rows by their keys: where a key comes again, the row takes the place of the one before. -/
def Value.byKey (rows : List Value) : List (Text × Value) :=
  rows.foldl (fun members row => Value.insert row.rowKey row members) []

theorem Endpoint.rowKey_document (e : Endpoint) : e.document.rowKey = e.key := rfl

/-- An endpoint without samples takes its place among the entries as its row does among the rows. -/
theorem Registry.map_upsertIn {e : Endpoint} (plain : e.responses = []) {entries : Snapshot}
    (bare : ∀ entry ∈ entries, entry.2.responses = []) :
    ((upsertIn e entries).map fun (key,e) => (key,e.document)) =
      Value.insert e.key e.document (entries.map fun (key,e) => (key,e.document)) ∧
    ∀ entry ∈ upsertIn e entries, entry.2.responses = [] := by
  induction entries with
  | nil => simp [upsertIn,Value.insert,plain]
  | cons entry rest ih =>
    obtain ⟨key,old⟩ := entry
    obtain ⟨none,later⟩ := List.forall_mem_cons.mp bare
    obtain ⟨inserted,kept⟩ := ih later
    by_cases same : key = e.key
    · have unsampled : { e with responses := old.responses ++ e.responses } = e := by
        rw [show old.responses = [] from none,List.nil_append]
      simp only [upsertIn,same,if_true,unsampled,List.map_cons,Value.insert,List.forall_mem_cons]
      exact ⟨trivial,plain,later⟩
    · simp only [upsertIn,same,if_false,List.map_cons,Value.insert,inserted,List.forall_mem_cons]
      exact ⟨trivial,none,kept⟩

/-- Endpoints without samples take their places one after the other. -/
theorem Registry.map_load {es : List Endpoint} (plain : ∀ e ∈ es, e.responses = []) {r : Registry}
    (bare : ∀ entry ∈ r.entries, entry.2.responses = []) :
    ((r.load es).entries.map fun (key,e) => (key,e.document)) =
      (es.map Endpoint.document).foldl (fun members row => Value.insert row.rowKey row members)
        (r.entries.map fun (key,e) => (key,e.document)) ∧
    ∀ entry ∈ (r.load es).entries, entry.2.responses = [] := by
  induction es generalizing r with
  | nil => exact ⟨rfl,bare⟩
  | cons e rest ih =>
    obtain ⟨first,later⟩ := List.forall_mem_cons.mp plain
    obtain ⟨inserted,kept⟩ := map_upsertIn first bare
    have upserted : ∀ entry ∈ (r.upsert e).entries, entry.2.responses = [] := kept
    obtain ⟨folded,none⟩ := ih later upserted
    refine ⟨?_,none⟩
    rw [show r.load (e :: rest) = (r.upsert e).load rest from rfl,folded,upsert,inserted,List.map_cons,List.foldl_cons,
      Endpoint.rowKey_document]

/-- The document of endpoints without samples has their rows by keys. -/
theorem Registry.document_load {es : List Endpoint} (plain : ∀ e ∈ es, e.responses = []) :
    (Registry.empty.load es).snapshot.document = .obj (Value.byKey (es.map Endpoint.document)) ∧
    ∀ entry ∈ (Registry.empty.load es).snapshot, entry.2.responses = [] := by
  obtain ⟨folded,none⟩ := map_load plain (r := .empty) (by simp [empty])
  exact ⟨congrArg Value.obj folded,none⟩

/-- Endpoints without samples are documented as they are. -/
theorem Snapshot.documented_of_bare {s : Snapshot} (bare : ∀ entry ∈ s, entry.2.responses = []) : s.documented = .ok s := by
  refine eachDocumented_eq_self fun ⟨key,e⟩ member => ?_
  have none : e.responses = [] := bare _ member
  have kept : Endpoint.documented e = .ok e := by
    rw [Endpoint.documented,none]
    exact congrArg Except.ok (by rw [← none])
  dsimp only
  rw [kept]
  rfl

namespace Command

/-- The pattern is overlooked: an empty one is given, and the environment gives one that is not the standard one. -/
def IsOverlooked (s : Setting) (pattern : Option Text) : Prop :=
  pattern = some [] ∧ ∃ t, Config.fromEnvironment? s.environment "pattern" = some t ∧ t ≠ [] ∧ t ≠ ({} : Config).pattern

/-- Generating and listing have the same pattern unless an empty one is overlooked. -/
theorem patterns_eq_iff (pattern environment : Option Text) :
    Config.orStandard ((pattern <|> environment).getD []) =
        Config.orStandard ((pattern.filter (!·.isEmpty) <|> environment).getD []) ↔
      ¬ (pattern = some [] ∧ ∃ t, environment = some t ∧ t ≠ [] ∧ t ≠ ({} : Config).pattern) := by
  cases pattern with
  | none => simp
  | some t =>
    cases t with
    | cons c rest => simp [Option.filter]
    | nil =>
      -- The empty pattern that is given stands for the standard one, and what the environment gives comes in its place.
      cases environment with
      | none => simp [Option.filter]
      | some t =>
        cases t with
        | nil => simp [Option.filter]
        | cons c rest =>
          have standard : Config.orStandard [] = ({} : Config).pattern := rfl
          have given : Config.orStandard (c :: rest) = c :: rest := rfl
          simp [Option.filter,standard,given,eq_comm]

/-- The file that is generated as JSON holds the rows of what was found, by their keys. -/
theorem runGenerating_writes {s : Setting} (grounded : s.tree.IsGrounded) {r : Generating}
    (done : (runGenerating s r).ending = .done) :
    ∃ place config directory places es, rootPlace s r.root = .ok place ∧ configOf s r.arguments = .ok config ∧
      directoryOf s r.directory = .ok directory ∧ (s.tree.extractTree ⟨1,place⟩ config).result = .ok (places,es) ∧
      (config.output = .json → ∃ content,
        (runGenerating s r).tree.read (Format.json.outputPath config.filename directory) = .ok content ∧
        Utf8.encode (Json.pretty (.obj (Value.byKey (es.map Endpoint.document)))) = .ok content) := by
  obtain ⟨place,config,directory,made,found,settled,chosen,succeeds,tree⟩ := exists_of_runGenerating done
  obtain ⟨places,read,_,saved,left⟩ := Files.generate_ok succeeds
  refine ⟨place,config,directory,places,made.endpoints,found,settled,chosen,read,fun json => ?_⟩
  obtain ⟨document,bare⟩ := Registry.document_load (Files.responses_of_extractTree read)
  obtain ⟨content,rendered,stored⟩ := Files.read_of_save grounded saved
  obtain ⟨_,_,_,output,_⟩ := Files.exists_write_of_save grounded saved
  refine ⟨content,?_,?_⟩
  · rw [tree,left,← json,← output]
    exact stored
  · rw [json] at rendered
    obtain ⟨w,own,encoded⟩ := Snapshot.encode_of_render rendered
    cases own.symm.trans (Snapshot.documented_of_bare bare)
    rw [← document]
    exact encoded

/-- Generating and listing agree. When both are done over the same root with the same pattern, they scan the same files, and
    the file that is generated holds the rows that are listed, by their keys: a key stands where it came first, with the row
    that came last. The one exception is an empty pattern when the environment gives one: generating takes the standard
    pattern then, and listing that of the environment. -/
theorem commands_agree {s : Setting} (grounded : s.tree.IsGrounded) {g : Generating} {l : Listing} (root : g.root = l.root)
    (pattern : g.pattern = l.pattern) (json : l.format.lower = ("json" : Text))
    (generated : (runGenerating s g).ending = .done) (listed : (runListing s l).ending = .done) :
    ∃ place config listing directory, rootPlace s g.root = .ok place ∧ configOf s g.arguments = .ok config ∧
      configOf s l.arguments = .ok listing ∧ directoryOf s g.directory = .ok directory ∧
      (config.pattern = listing.pattern ↔ ¬ IsOverlooked s g.pattern) ∧
      (IsOverlooked s g.pattern → config.pattern = ({} : Config).pattern ∧
        Config.fromEnvironment? s.environment "pattern" = some listing.pattern) ∧
      (¬ IsOverlooked s g.pattern → ∃ places es,
        s.tree.sources ⟨1,place⟩ config = .ok places ∧ s.tree.sources ⟨1,place⟩ listing = .ok places ∧
        (s.tree.extractTree ⟨1,place⟩ listing).result = .ok (places,es) ∧
        (runListing s l).printed = Json.pretty (.arr (es.map Endpoint.document)) ++ [10] ∧
        (config.output = .json → ∃ content,
          (runGenerating s g).tree.read (Format.json.outputPath config.filename directory) = .ok content ∧
          Utf8.encode (Json.pretty (.obj (Value.byKey (es.map Endpoint.document)))) = .ok content)) := by
  obtain ⟨place,config,directory,places,es,found,settled,chosen,extracted,written⟩ :=
    runGenerating_writes grounded generated
  obtain ⟨other,listing,listedPlaces,listedEs,again,settledListing,read,printed⟩ := exists_of_runListing listed
  rw [← root] at again
  cases found.symm.trans again
  have agree : config.pattern = listing.pattern ↔ ¬ IsOverlooked s g.pattern := by
    rw [Generating.pattern_eq settled,Listing.pattern_eq settledListing,← pattern]
    exact patterns_eq_iff _ _
  refine ⟨place,config,listing,directory,found,settled,settledListing,chosen,agree,?_,fun clear => ?_⟩
  · rintro ⟨empty,t,given,filled,_⟩
    rw [Generating.pattern_eq settled,Listing.pattern_eq settledListing,← pattern,empty,given]
    cases t with
    | nil => exact absurd rfl filled
    | cons c rest => exact ⟨rfl,rfl⟩
  · have same := agree.mpr clear
    rw [Files.extractTree_congr same,read] at extracted
    cases extracted
    have sources := ((Files.extractTree_ok ..).mp read).1
    exact ⟨places,es,(Files.sources_congr same ..).trans sources,sources,read,printed json,written⟩

/-! The environment gives a pattern of text files. In each file one key is documented twice. -/

private def codeSource : Text := "def a(): '@docs x\\n@path /a\\n@method GET'\n"

private def proseSource : Text :=
  "def b(): '@docs x\\n@path /b\\n@method GET'\ndef c(): '@docs y\\n@path /b\\n@method GET'\n"

private def twoKinds : Files :=
  { root := .directory [("src",.directory [("a.py",.file (octetsOf codeSource)),("b.txt",.file (octetsOf proseSource))])] }

private def proseSetting : Setting := ⟨twoKinds,[("DOCSGEN_PATTERN","*.txt")],80⟩

private def codeEndpoints : List Endpoint := [{ handler := "a", description := "x", path := "/a", method := "GET" }]

private def proseEndpoints : List Endpoint :=
  [{ handler := "b", description := "x", path := "/b", method := "GET" },
    { handler := "c", description := "y", path := "/b", method := "GET" }]

private theorem sources_twoKinds :
    twoKinds.sources ⟨1,["src"]⟩ { pattern := "*.py" } = .ok [["src","a.py"]] ∧
    twoKinds.sources ⟨1,["src"]⟩ { pattern := "*.txt" } = .ok [["src","b.txt"]] := by
  constructor
  · show twoKinds.resolveSome none (Files.collect ["src"] ((["a.py"] : List Text).map fun name => (name,.file))) = _
    rw [Files.collect_files _ _ (by decide)]
    rfl
  · show twoKinds.resolveSome none (Files.collect ["src"] ((["b.txt"] : List Text).map fun name => (name,.file))) = _
    rw [Files.collect_files _ _ (by decide)]
    rfl

private theorem read_code :
    (twoKinds.extractTree ⟨1,["src"]⟩ { pattern := "*.py" }).result = .ok ([["src","a.py"]],codeEndpoints) := by
  have isModule : Source.IsModule (octetsOf codeSource) [⟨"a",some "@docs x\n@path /a\n@method GET"⟩] :=
    isModule_octets (by decide) (by decide) (by decide +kernel)
  have extracted : twoKinds.extracted ["src","a.py"] = .ok codeEndpoints :=
    (extractFile_module rfl isModule (by decide)).trans rfl
  exact (Files.extractTree_ok ..).mpr ⟨sources_twoKinds.1,by simp,_,.cons extracted .nil,rfl⟩

private theorem read_prose :
    (twoKinds.extractTree ⟨1,["src"]⟩ { pattern := "*.txt" }).result = .ok ([["src","b.txt"]],proseEndpoints) := by
  have isModule : Source.IsModule (octetsOf proseSource)
      [⟨"b",some "@docs x\n@path /b\n@method GET"⟩,⟨"c",some "@docs y\n@path /b\n@method GET"⟩] :=
    isModule_octets (by decide) (by decide) (by decide +kernel)
  have extracted : twoKinds.extracted ["src","b.txt"] = .ok proseEndpoints :=
    (extractFile_module rfl isModule (by decide)).trans rfl
  exact (Files.extractTree_ok ..).mpr ⟨sources_twoKinds.2,by simp,_,.cons extracted .nil,rfl⟩

private theorem rootPlace_src : rootPlace proseSetting "src" = .ok ["src"] := rfl

private theorem output_default : Format.json.outputPath ({} : Config).filename none = ⟨0,["docs.gen.json"]⟩ := by
  decide

/-- Over the two files, a run that generates is done with what it finds. -/
private theorem generated_done {pattern : Option Text} {t : Text} {place : Place} {es : List Endpoint}
    (settled : configOf proseSetting (Generating.arguments { root := "src", pattern }) = .ok { pattern := t })
    (read : (twoKinds.extractTree ⟨1,["src"]⟩ { pattern := t }).result = .ok ([place],es))
    (rendered : ∃ content, (Registry.empty.load es).snapshot.render .json = .ok content)
    (plain : ∀ e ∈ es, HasPlainNames e) : (runGenerating proseSetting { root := "src", pattern }).ending = .done := by
  obtain ⟨content,rendered⟩ := rendered
  have room : twoKinds.HasRoom ⟨0,["docs.gen.json"]⟩ := ⟨by decide,rfl,.inr ⟨[],"docs.gen.json",rfl⟩⟩
  have saved : (twoKinds.save (Registry.empty.load es).snapshot { pattern := t } none).2.result =
      .ok (Format.json.outputPath ({} : Config).filename none) :=
    Files.save_of_hasRoom rendered (output_default ▸ room)
  have outcome := (Files.generate_of_read read none .empty).2.2
  rw [saved] at outcome
  have plainOutput : 0x5B ∉ (⟨0,["docs.gen.json"]⟩ : Path).toText := by decide
  refine runGenerating_done rootPlace_src settled rfl outcome (shows_generatedTexts _ (by decide) ?_ plain)
  rw [output_default]
  exact plainOutput

theorem commands_agree_twice :
    proseSetting.tree.IsGrounded ∧ (runGenerating proseSetting { root := "src" }).ending = .done ∧
    (runListing proseSetting { root := "src", format := "json" }).ending = .done ∧ ¬ IsOverlooked proseSetting none ∧
    ∃ rows : List Value, rows.length = 2 ∧ (Value.byKey rows).length = 1 ∧
      (runListing proseSetting { root := "src", format := "json" }).printed = Json.pretty (.arr rows) ++ [10] ∧
      ∃ content, (runGenerating proseSetting { root := "src" }).tree.read ⟨0,["docs.gen.json"]⟩ = .ok content ∧
        Utf8.encode (Json.pretty (.obj (Value.byKey rows))) = .ok content := by
  have settled : configOf proseSetting (Generating.arguments { root := "src" }) = .ok { pattern := "*.txt" } := by
    rfl
  have settledListing : configOf proseSetting (Listing.arguments { root := "src" }) = .ok { pattern := "*.txt" } := by
    rfl
  have json : ("json" : Text).lower = ("json" : Text) := Text.lower_of_small (by decide)
  have generated : (runGenerating proseSetting { root := "src" }).ending = .done := by
    have snapshot : (Registry.empty.load proseEndpoints).snapshot =
        [(endpointKey "GET" "/b",{ handler := "c", description := "y", path := "/b", method := "GET" })] := rfl
    refine generated_done settled read_prose ?_ (by decide)
    rw [snapshot]
    exact Snapshot.exists_render_of_bare (by simp) (by decide) (by simp) .json
  have listed : (runListing proseSetting { root := "src", format := "json" }).ending = .done :=
    runListing_done rootPlace_src settledListing read_prose json
  have clear : ¬ IsOverlooked proseSetting none := fun overlooked => nomatch overlooked.1
  obtain ⟨place,config,listing,directory,found,taken,takenListing,chosen,_,_,agreed⟩ :=
    commands_agree (s := proseSetting) rfl rfl rfl json generated listed
  cases rootPlace_src.symm.trans found
  cases settled.symm.trans taken
  cases settledListing.symm.trans takenListing
  cases chosen
  obtain ⟨places,es,_,_,read,printed,written⟩ := agreed clear
  cases read_prose.symm.trans read
  rw [output_default] at written
  exact ⟨rfl,generated,listed,clear,_,rfl,rfl,printed,written rfl⟩

/-- An empty pattern is overlooked: the file that is generated does not hold the rows that are listed. -/
theorem commands_disagree_emptyPattern :
    (runGenerating proseSetting { root := "src", pattern := some [] }).ending = .done ∧
    (runListing proseSetting { root := "src", pattern := some [], format := "json" }).ending = .done ∧
    ∃ config listing, configOf proseSetting (Generating.arguments { root := "src", pattern := some [] }) = .ok config ∧
      configOf proseSetting (Listing.arguments { root := "src", pattern := some [] }) = .ok listing ∧
      twoKinds.sources ⟨1,["src"]⟩ config = .ok [["src","a.py"]] ∧
      twoKinds.sources ⟨1,["src"]⟩ listing = .ok [["src","b.txt"]] ∧
      ∃ rows others, (runListing proseSetting { root := "src", pattern := some [], format := "json" }).printed =
          Json.pretty (.arr rows) ++ [10] ∧ (Value.byKey rows).map (·.1) = [endpointKey "GET" "/b"] ∧
        (Value.byKey others).map (·.1) = [endpointKey "GET" "/a"] ∧
        ∃ content, (runGenerating proseSetting { root := "src", pattern := some [] }).tree.read ⟨0,["docs.gen.json"]⟩ =
            .ok content ∧ Utf8.encode (Json.pretty (.obj (Value.byKey others))) = .ok content := by
  have settled : configOf proseSetting (Generating.arguments { root := "src", pattern := some [] }) =
      .ok { pattern := "*.py" } := by
    rfl
  have settledListing : configOf proseSetting (Listing.arguments { root := "src", pattern := some [] }) =
      .ok { pattern := "*.txt" } := by
    rfl
  have json : ("json" : Text).lower = ("json" : Text) := Text.lower_of_small (by decide)
  have generated : (runGenerating proseSetting { root := "src", pattern := some [] }).ending = .done := by
    have snapshot : (Registry.empty.load codeEndpoints).snapshot = codeEndpoints.map fun e => (e.key,e) := rfl
    refine generated_done settled read_code ?_ (by decide)
    rw [snapshot]
    exact Snapshot.exists_render_of_bare (by decide) (by decide) (by simp [codeEndpoints]) .json
  have listed : (runListing proseSetting { root := "src", pattern := some [], format := "json" }).ending = .done :=
    runListing_done rootPlace_src settledListing read_prose json
  obtain ⟨place,config,directory,places,es,found,taken,chosen,read,written⟩ :=
    runGenerating_writes (s := proseSetting) rfl generated
  cases rootPlace_src.symm.trans found
  cases settled.symm.trans taken
  cases chosen
  cases read_code.symm.trans read
  obtain ⟨place,config,places,es,found,taken,read,printed⟩ := exists_of_runListing listed
  cases rootPlace_src.symm.trans found
  cases settledListing.symm.trans taken
  cases read_prose.symm.trans read
  rw [output_default] at written
  exact ⟨generated,listed,_,_,settled,settledListing,sources_twoKinds.1,sources_twoKinds.2,_,_,printed json,rfl,rfl,
    written rfl⟩

end Command

end ApiDocs
