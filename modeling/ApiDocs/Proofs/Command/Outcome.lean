import ApiDocs.Proofs.Command.Report

/-!
Runs of the commands. A run that is done has found its root, its settings, and its endpoints
(`exists_of_runGenerating`, `exists_of_runListing`); conversely it is done when these are found and its report is shown.
-/
namespace ApiDocs.Command

/-- The arguments that a request to generate hands to the settings. -/
def Generating.arguments (r : Generating) : List (Text × Value) :=
  argument "pattern" r.pattern ++ argument "output" (r.output.map Format.name) ++ argument "filename" r.filename ++
    argument "log_level" r.logLevel

/-- The arguments that a request to list hands to the settings. -/
def Listing.arguments (r : Listing) : List (Text × Value) := argument "pattern" (r.pattern.filter (!·.isEmpty))

theorem check_of_configOf {s : Setting} {arguments : List (Text × Value)} {config : Config}
    (settled : configOf s arguments = .ok config) : Config.check arguments s.environment = .ok config := by
  unfold configOf at settled
  cases run : Config.check arguments s.environment with
  | error problems => rw [run] at settled; cases settled
  | ok other =>
    rw [run] at settled
    cases settled
    rfl

theorem tree_printing (o : Outcome) (width : Nat) (texts : List Text) : (o.printing width texts).tree = o.tree := by
  simp only [Outcome.printing]

/-- Printing does not mend what has failed. -/
theorem ending_of_printing {o : Outcome} {width : Nat} {texts : List Text}
    (done : (o.printing width texts).ending = .done) : o.ending = .done := by
  unfold Outcome.printing at done
  dsimp only at done
  split at done
  · cases done
  · exact done

theorem ending_failing (o : Outcome) (width : Nat) (e : GenerationError) : (o.failing width e).ending ≠ .done := by
  unfold Outcome.failing
  split
  · exact fun done => nomatch ending_of_printing done
  · rintro ⟨⟩

/-- What an outcome that is done was made of, when endpoints are generated. -/
theorem exists_of_runGenerating {s : Setting} {r : Generating} (done : (runGenerating s r).ending = .done) :
    ∃ place config directory made, rootPlace s r.root = .ok place ∧ configOf s r.arguments = .ok config ∧
      directoryOf s r.directory = .ok directory ∧
      (s.tree.generate ⟨1,place⟩ config directory .empty).outcome.result = .ok made ∧
      (runGenerating s r).tree = (s.tree.generate ⟨1,place⟩ config directory .empty).tree := by
  unfold runGenerating at done
  split at done
  · cases done
  · cases done
  · rename_i place found
    dsimp only at done
    split at done
    · cases done
    · rename_i config settled
      split at done
      · cases done
      · rename_i directory chosen
        split at done
        · exact absurd done (ending_failing _ _ _)
        · rename_i made generated
          refine ⟨place,config,directory,made,found,settled,chosen,generated,?_⟩
          simp only [runGenerating,found,settled,chosen,generated,tree_printing]

/-- What an outcome that is done was made of, when endpoints are listed. -/
theorem exists_of_runListing {s : Setting} {r : Listing} (done : (runListing s r).ending = .done) :
    ∃ place config places es, rootPlace s r.root = .ok place ∧ configOf s r.arguments = .ok config ∧
      (s.tree.extractTree ⟨1,place⟩ config).result = .ok (places,es) ∧
      (r.format.lower = ("json" : Text) →
        (runListing s r).printed = Json.pretty (.arr (es.map Endpoint.document)) ++ [10]) := by
  unfold runListing at done
  split at done
  · cases done
  · cases done
  · rename_i place found
    split at done
    · cases done
    · rename_i config settled
      dsimp only at done
      split at done
      · exact absurd done (ending_failing _ _ _)
      · rename_i places es read
        refine ⟨place,config,places,es,found,settled,read,fun json => ?_⟩
        simp only [runListing,found,settled,read,json,if_true]

/-- A run that saved its documentation is done but for its report. -/
theorem exists_printing_of_generate {s : Setting} {r : Generating} {place : Place} {config : Config}
    {directory : Option Path} {made : Generated} (found : rootPlace s r.root = .ok place)
    (settled : configOf s r.arguments = .ok config) (chosen : directoryOf s r.directory = .ok directory)
    (generated : (s.tree.generate ⟨1,place⟩ config directory .empty).outcome.result = .ok made) :
    ∃ o : Outcome, runGenerating s r = o.printing s.width (generatedTexts place config.output made) ∧ o.printed = [] ∧
      o.ending = .done := by
  rw [Generating.arguments] at settled
  unfold runGenerating
  simp only [found,settled,chosen,generated]
  exact ⟨_,rfl,rfl,rfl⟩

/-- A run that saved its documentation is done when what it reports is shown. -/
theorem runGenerating_done {s : Setting} {r : Generating} {place : Place} {config : Config} {directory : Option Path}
    {made : Generated} (found : rootPlace s r.root = .ok place) (settled : configOf s r.arguments = .ok config)
    (chosen : directoryOf s r.directory = .ok directory)
    (generated : (s.tree.generate ⟨1,place⟩ config directory .empty).outcome.result = .ok made)
    (shown : ∀ t ∈ generatedTexts place config.output made, Console.Shows t) : (runGenerating s r).ending = .done := by
  obtain ⟨o,reported,_,done⟩ := exists_printing_of_generate found settled chosen generated
  rw [reported,ending_printing shown,done]

/-- A run that lists what it found as JSON is done. -/
theorem runListing_done {s : Setting} {r : Listing} {place : Place} {config : Config} {places : List Place}
    {es : List Endpoint} (found : rootPlace s r.root = .ok place) (settled : configOf s r.arguments = .ok config)
    (read : (s.tree.extractTree ⟨1,place⟩ config).result = .ok (places,es)) (json : r.format.lower = ("json" : Text)) :
    (runListing s r).ending = .done := by
  rw [Listing.arguments] at settled
  unfold runListing
  simp only [found,settled,read,json,if_true]

end ApiDocs.Command
