import ApiDocs.Proofs.Command.Outcome
import ApiDocs.Proofs.Console.Inert
import ApiDocs.Proofs.DocsFile.Saving
import ApiDocs.Proofs.Generation.Sources
import ApiDocs.Proofs.Render.Outcome

/-!
The endpoints that a run lists after it generated. What is printed are the lines of the report up to the first text of it
that is not shown (`splitOn_printAll`). Markup in the names of endpoints is acted upon: an inert line stands as it is, another
one is changed or ends the run (`runGenerating_lists`).
-/
namespace ApiDocs.Command

open Console

/-! ### Lines that are printed -/

/-- The lines that are printed of a text, none if it is not shown. -/
def linesOf (width : Nat) (t : Text) : List Text :=
  match shownText t with
  | .ok shown => if width = 0 then [] else lines width shown
  | .error _ => []

theorem linesOf_eq {width : Nat} {t shown : Text} (filled : width ≠ 0) (run : shownText t = .ok shown) :
    linesOf width t = lines width shown := by
  rw [linesOf,run]
  exact if_neg filled

theorem noFeed_of_linesOf {width : Nat} {t line : Text} (member : line ∈ linesOf width t) : 10 ∉ line := by
  unfold linesOf at member
  split at member
  · split at member
    · cases member
    · exact (not_mem_lines member).2
  · cases member

theorem printed_of_shows {t : Text} (shows : Shows t) (width : Nat) :
    printed width t = .ok ((linesOf width t).flatMap (· ++ [10])) := by
  obtain ⟨shown,run⟩ := shows
  rw [printed,linesOf,run]
  refine congrArg Except.ok ?_
  dsimp only
  split <;> rfl

theorem splitOn_flatMap {lines : List Text} (noFeed : ∀ line ∈ lines, 10 ∉ line) (more : Text) :
    Text.splitOn 10 (lines.flatMap (· ++ [10]) ++ more) = lines ++ Text.splitOn 10 more := by
  induction lines with
  | nil => rfl
  | cons line rest ih =>
    obtain ⟨own,later⟩ := List.forall_mem_cons.mp noFeed
    rw [List.flatMap_cons,List.append_assoc,List.append_assoc,List.singleton_append,Text.splitOn_append,
      Text.splitOn_of_not_mem own,ih later]
    rfl

/-- What is printed are the lines of the texts up to the first one that is not shown. -/
theorem splitOn_printAll (width : Nat) (texts : List Text) :
    Text.splitOn 10 (printAll width texts).1 = (texts.takeWhile (Shows ·)).flatMap (linesOf width) ++ [[]] := by
  induction texts with
  | nil => rfl
  | cons t rest ih =>
    by_cases shows : Shows t
    · rw [printAll,printed_of_shows shows,List.takeWhile_cons_of_pos (by simpa using shows)]
      dsimp only
      rw [splitOn_flatMap (fun line => noFeed_of_linesOf),ih,List.flatMap_cons,List.append_assoc]
    · rw [List.takeWhile_cons_of_neg (by simpa using shows),printAll,printed]
      cases run : shownText t with
      | ok shown => exact absurd ⟨shown,run⟩ shows
      | error e => rfl

theorem splitOn_printAll_of_shows {texts : List Text} (shown : ∀ t ∈ texts, Shows t) (width : Nat) :
    Text.splitOn 10 (printAll width texts).1 = texts.flatMap (linesOf width) ++ [[]] := by
  rw [splitOn_printAll,List.takeWhile_eq_self_iff.mpr fun t member => by simpa using shown t member]

/-- A text that fits has a line of its own when it is inert. If no colon is in it, it has one only then. -/
theorem linesOf_eq_singleton {width : Nat} {t : Text} (fits : Console.width t < width) :
    (IsInert t ∧ KeepsEnd width t → Shows t ∧ linesOf width t = [t]) ∧
      (0x3A ∉ t → linesOf width t = [t] → IsInert t ∧ KeepsEnd width t) := by
  have filled : width ≠ 0 := Nat.ne_zero_of_lt fits
  constructor
  · rintro ⟨inert,ending⟩
    have run := inert.shownText_eq
    exact ⟨⟨t,run⟩,(linesOf_eq filled run).trans (inert.lines_eq (Nat.le_of_lt fits) ending)⟩
  · intro noColon own
    cases run : shownText t with
    | ok shown => exact isInert_of_lines (Nat.le_of_lt fits) noColon run ((linesOf_eq filled run).symm.trans own)
    | error e =>
      rw [linesOf,run] at own
      cases own

/-! ### Endpoints that are listed -/

theorem infix_endpointLine (e : Endpoint) :
    e.method <:+: endpointLine e ∧ e.path <:+: endpointLine e ∧ e.handler <:+: endpointLine e := by
  unfold endpointLine Text.padRight
  refine ⟨⟨"  ",Text.repeated (6 - e.method.length) 0x20 ++
      0x20 :: (e.path ++ Text.repeated (35 - e.path.length) 0x20) ++ (" -> " : Text) ++ e.handler,?_⟩,
    ⟨("  " : Text) ++ (e.method ++ Text.repeated (6 - e.method.length) 0x20) ++ [0x20],
      Text.repeated (35 - e.path.length) 0x20 ++ (" -> " : Text) ++ e.handler,?_⟩,
    (List.suffix_append _ _).isInfix⟩
  all_goals simp

theorem printed_printing (o : Outcome) (width : Nat) (texts : List Text) :
    (o.printing width texts).printed = o.printed ++ (printAll width texts).1 := rfl

theorem exitCode?_printing {o : Outcome} (done : o.ending = .done) (width : Nat) (texts : List Text) :
    (o.printing width texts).ending.exitCode? = if ∀ t ∈ texts, Shows t then some 0 else none := by
  unfold Outcome.printing
  cases report : (printAll width texts).2 with
  | none =>
    rw [if_pos (printAll_eq_none.mp report)]
    simp [report,done,Ending.exitCode?]
  | some e =>
    rw [if_neg fun shown => nomatch report.symm.trans (printAll_eq_none.mpr shown)]
    simp [report,Ending.exitCode?]

/-- A run that saved its documentation prints its report, and has an exit code only when all of that is shown. -/
theorem runGenerating_reports {s : Setting} {r : Generating} {place : Place} {config : Config} {directory : Option Path}
    {made : Generated} (found : rootPlace s r.root = .ok place) (settled : configOf s r.arguments = .ok config)
    (chosen : directoryOf s r.directory = .ok directory)
    (generated : (s.tree.generate ⟨1,place⟩ config directory .empty).outcome.result = .ok made) :
    (runGenerating s r).printed = (printAll s.width (generatedTexts place config.output made)).1 ∧
      (runGenerating s r).ending.exitCode? =
        if ∀ t ∈ generatedTexts place config.output made, Shows t then some 0 else none := by
  obtain ⟨o,reported,fresh,done⟩ := exists_printing_of_generate found settled chosen generated
  rw [reported,printed_printing,fresh,List.nil_append]
  exact ⟨rfl,exitCode?_printing done _ _⟩

private def bracketSource : Text :=
  "def wake(): '@docs x\\n@path /users/[0]/{id}:wake\\n@method PUT'\ndef show(): '@docs y\\n@path /users/[id]\\n@method GET'\n"

private def bracketSetting : Setting :=
  ⟨{ root := .directory [("src",.directory [("a.py",.file (octetsOf bracketSource))])] },[],80⟩

private def bracketRun : Outcome := runGenerating bracketSetting { root := "src" }

private def inertEndpoint : Endpoint := { handler := "wake", description := "x", path := "/users/[0]/{id}:wake", method := "PUT" }

private def taggedEndpoint : Endpoint := { handler := "show", description := "y", path := "/users/[id]", method := "GET" }

private def bracketMade : Generated := ⟨1,[inertEndpoint,taggedEndpoint],⟨0,["docs.gen.json"]⟩⟩

private theorem bracket_settled :
    rootPlace bracketSetting "src" = .ok ["src"] ∧
      configOf bracketSetting (Generating.arguments { root := "src" }) = .ok {} := by
  have checked : Config.check (Generating.arguments { root := "src" }) [] = .ok {} := by rfl
  refine ⟨rfl,?_⟩
  rw [configOf,show bracketSetting.environment = [] from rfl,checked]
  rfl

set_option maxRecDepth 2000 in
private theorem bracket_generated :
    (bracketSetting.tree.generate ⟨1,["src"]⟩ {} none .empty).outcome.result = .ok bracketMade := by
  have sources : bracketSetting.tree.sources ⟨1,["src"]⟩ {} = .ok [["src","a.py"]] := by
    show bracketSetting.tree.resolveSome none (Files.collect ["src"] ((["a.py"] : List Text).map fun name => (name,.file))) = _
    rw [Files.collect_files _ _ (by decide)]
    rfl
  have isModule : Source.IsModule (octetsOf bracketSource)
      [⟨"wake",some "@docs x\n@path /users/[0]/{id}:wake\n@method PUT"⟩,⟨"show",some "@docs y\n@path /users/[id]\n@method GET"⟩] :=
    isModule_octets (by decide) (by decide) (by decide +kernel)
  have extracted : bracketSetting.tree.extracted ["src","a.py"] = .ok [inertEndpoint,taggedEndpoint] :=
    (extractFile_module rfl isModule (by decide)).trans rfl
  have read : (bracketSetting.tree.extractTree ⟨1,["src"]⟩ {}).result = .ok ([["src","a.py"]],[inertEndpoint,taggedEndpoint]) :=
    (Files.extractTree_ok ..).mpr ⟨sources,by simp,_,.cons extracted .nil,rfl⟩
  have snapshot : (Registry.empty.load [inertEndpoint,taggedEndpoint]).snapshot =
      [(inertEndpoint.key,inertEndpoint),(taggedEndpoint.key,taggedEndpoint)] := rfl
  obtain ⟨content,rendered⟩ : ∃ content,
      (Registry.empty.load [inertEndpoint,taggedEndpoint]).snapshot.render .json = .ok content := by
    rw [snapshot]
    exact Snapshot.exists_render_of_bare (by decide) (by decide) (by simp [inertEndpoint,taggedEndpoint]) .json
  have output : Format.json.outputPath ({} : Config).filename none = ⟨0,["docs.gen.json"]⟩ := by decide
  have room : bracketSetting.tree.HasRoom ⟨0,["docs.gen.json"]⟩ := ⟨by decide,rfl,.inr ⟨[],"docs.gen.json",rfl⟩⟩
  have saved : (bracketSetting.tree.save (Registry.empty.load [inertEndpoint,taggedEndpoint]).snapshot {} none).2.result =
      .ok (Format.json.outputPath ({} : Config).filename none) :=
    Files.save_of_hasRoom rendered (output ▸ room)
  have outcome := (Files.generate_of_read read none .empty).2.2
  rw [saved,output] at outcome
  exact outcome

private theorem inert_wake :
    (IsInert (endpointLine inertEndpoint) ∧ KeepsEnd 80 (endpointLine inertEndpoint)) ∧
      Console.width (endpointLine inertEndpoint) < 80 :=
  ⟨⟨by decide,.inl (by decide)⟩,(width_of_ascii (by decide)).trans_lt (by decide)⟩

private theorem shownText_tagged :
    shownText (endpointLine taggedEndpoint) = .ok ("  GET    /users/                         -> show" : Text) := by
  have bracketed : endpointLine taggedEndpoint =
      ("  GET    /users/" : Text) ++ 0x5B :: (("id" : Text) ++ 0x5D :: ("                         -> show" : Text)) := by
    decide
  have filled : ("id" : Text) ≠ [] := by decide
  obtain ⟨style,tag⟩ := exists_isStyleTag filled (by decide)
  rw [bracketed]
  exact tag.shownText_begun (by decide) (by decide)

end ApiDocs.Command
