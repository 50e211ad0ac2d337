import ApiDocs.Command.Run
import ApiDocs.Proofs.Console.Markup
import ApiDocs.Proofs.Text.Printable

/-!
The report of a run that generates. It has markup of its own, and is shown when the lines of the endpoints are
(`shows_generatedTexts_iff`), as those are that have no opening bracket in their names; texts that are shown are printed up to
the last one (`ending_printing`).
-/
namespace ApiDocs.Command

open Console

/-- Texts are printed up to the last one when all of them are shown, and only then. -/
theorem printAll_eq_none {width : Nat} {texts : List Text} : (printAll width texts).2 = none ↔ ∀ t ∈ texts, Shows t := by
  induction texts with
  | nil => simp [printAll]
  | cons t rest ih =>
    rw [printAll,printed,List.forall_mem_cons,← ih]
    cases run : shownText t with
    | ok shown => simp [Except.map,Shows,run]
    | error e => simp [Except.map,Shows,run]

theorem ending_printing {o : Outcome} {texts : List Text} (shown : ∀ t ∈ texts, Shows t) (width : Nat) :
    (o.printing width texts).ending = o.ending := by
  have none : (printAll width texts).2 = none := printAll_eq_none.mpr shown
  unfold Outcome.printing
  cases run : printAll width texts with
  | mk lines e =>
    rw [run] at none
    cases none
    rfl

/-! ### The texts of the report -/

/-- No name that is reported of an endpoint has an opening bracket. -/
def HasPlainNames (e : Endpoint) : Prop := 0x5B ∉ e.method ∧ 0x5B ∉ e.path ∧ 0x5B ∉ e.handler

instance (e : Endpoint) : Decidable (HasPlainNames e) := inferInstanceAs (Decidable (_ ∧ _))

theorem not_mem_ofNat (n : Nat) : 0x5B ∉ Text.ofNat n := fun member => by
  have digit := Text.isDigit_of_mem_ofNat member
  revert digit
  decide

theorem not_mem_endpointLine {e : Endpoint} (plain : HasPlainNames e) : 0x5B ∉ endpointLine e := by
  have begins : 0x5B ∉ ("  " : Text) := by decide
  have arrow : 0x5B ∉ (" -> " : Text) := by decide
  simp [endpointLine,Text.padRight,Text.repeated,begins,arrow,plain.1,plain.2.1,plain.2.2]

theorem shownText_title {t : Text} (plain : 0x5B ∉ t) :
    shownText (("[bold green]docsgen[/bold green] generate: " : Text) ++ t) =
      .ok (shownPlain "docsgen" ++ shownPlain ((" generate: " : Text) ++ t)) := by
  have split : ("[bold green]docsgen[/bold green] generate: " : Text) =
      0x5B :: ("bold green" : Text) ++ 0x5D :: (("docsgen" : Text) ++
        (0x5B :: 0x2F :: ("bold green" : Text) ++ 0x5D :: (" generate: " : Text))) := by decide
  have label : 0x5B ∉ (" generate: " : Text) := by decide
  obtain ⟨style,tag⟩ := exists_isStyleTag_boldGreen
  rw [split]
  simpa using tag.shownText_styled [] "docsgen" ((" generate: " : Text) ++ t) (List.forall_mem_nil _)
    (by decide) (by simp [label,plain])

theorem shownText_count (n : Nat) :
    shownText (("Endpoints found: [bold]" : Text) ++ Text.ofNat n ++ ("[/bold]" : Text)) =
      .ok (shownPlain "Endpoints found: " ++ shownPlain (Text.ofNat n)) := by
  have split : ("Endpoints found: [bold]" : Text) = ("Endpoints found: " : Text) ++ (0x5B :: ("bold" : Text) ++ [0x5D]) ∧
      ("[/bold]" : Text) = 0x5B :: 0x2F :: ("bold" : Text) ++ [0x5D] := by decide
  have digits : ∀ c ∈ Text.ofNat n, c ≠ 0x5B ∧ c ≠ 0x5C := by
    intro c member
    have digit := Text.isDigit_of_mem_ofNat member
    simp only [Text.isDigit,Bool.and_eq_true,decide_eq_true_eq] at digit
    omega
  have bold : ("bold" : Text) ≠ [] := by decide
  obtain ⟨style,tag⟩ := exists_isStyleTag bold (by decide)
  rw [split.1,split.2]
  simpa using tag.shownText_styled "Endpoints found: " (Text.ofNat n) [] (by decide) digits List.not_mem_nil

theorem shownText_wrote (format : Format) {t : Text} (plain : 0x5B ∉ t) :
    shownText (("[bold green]Wrote[/bold green] " : Text) ++ format.name ++ (" docs to: " : Text) ++ t) =
      .ok (shownPlain "Wrote" ++ shownPlain ((" " : Text) ++ format.name ++ (" docs to: " : Text) ++ t)) := by
  have split : ("[bold green]Wrote[/bold green] " : Text) =
      0x5B :: ("bold green" : Text) ++ 0x5D :: (("Wrote" : Text) ++
        (0x5B :: 0x2F :: ("bold green" : Text) ++ 0x5D :: (" " : Text))) := by decide
  have label : 0x5B ∉ (" " : Text) ++ format.name ++ (" docs to: " : Text) := by cases format <;> decide
  obtain ⟨style,tag⟩ := exists_isStyleTag_boldGreen
  rw [split]
  simpa using tag.shownText_styled [] "Wrote" ((" " : Text) ++ format.name ++ (" docs to: " : Text) ++ t)
    (List.forall_mem_nil _) (by decide) (by simpa [plain] using label)

/-- What is reported after a generation is shown when the lines of the endpoints are. -/
theorem shows_generatedTexts_iff {root : Place} (format : Format) {g : Generated} (plainRoot : 0x5B ∉ root.toText)
    (plainOutput : 0x5B ∉ g.output.toText) :
    (∀ t ∈ generatedTexts root format g, Shows t) ↔ ∀ e ∈ g.endpoints.take maxListed, Shows (endpointLine e) := by
  have parsed : Shows (("Files parsed: " : Text) ++ Text.ofNat g.files) := by
    have label : 0x5B ∉ ("Files parsed: " : Text) := by decide
    exact shows_of_plain (by simp [label,not_mem_ofNat])
  have more (n : Nat) : Shows (("  … and " : Text) ++ Text.ofNat n ++ (" more" : Text)) := by
    have label : 0x5B ∉ ("  … and " : Text) ∧ 0x5B ∉ (" more" : Text) := by decide
    exact shows_of_plain (by simp [label,not_mem_ofNat])
  unfold generatedTexts
  dsimp only
  simp only [List.forall_mem_append,List.forall_mem_cons,List.forall_mem_map]
  refine ⟨fun shown => shown.1.1.2,fun lines => ⟨⟨⟨⟨⟨_,shownText_title plainRoot⟩,parsed,⟨_,shownText_count _⟩,
    List.forall_mem_nil _⟩,lines⟩,?_⟩,⟨_,shownText_wrote _ plainOutput⟩,List.forall_mem_nil _⟩⟩
  split
  · exact List.forall_mem_nil _
  · exact List.forall_mem_singleton.mpr (more _)

theorem shows_generatedTexts {root : Place} (format : Format) {g : Generated} (plainRoot : 0x5B ∉ root.toText)
    (plainOutput : 0x5B ∉ g.output.toText) (plain : ∀ e ∈ g.endpoints, HasPlainNames e) :
    ∀ t ∈ generatedTexts root format g, Shows t :=
  (shows_generatedTexts_iff format plainRoot plainOutput).mpr fun e member =>
    shows_of_plain (not_mem_endpointLine (plain e (List.mem_of_mem_take member)))

end ApiDocs.Command
