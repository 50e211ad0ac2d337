import ApiDocs.Proofs.Extraction.Outcome
import ApiDocs.Proofs.Text.Words
import Mathlib.Data.List.Basic

/-!
What a docstring says, line by line. A directive is recognised by the first of the words of its line
(`Directive.ofLine?_trim`); a field of the endpoint is what the last of its lines says, and each well-formed line about a
parameter adds one (`Endpoint.foldl_add`). So the endpoint of a docstring is what `Endpoint.described` reads off its lines,
whatever the docstring is (`ofDocstring_described`).
-/
namespace ApiDocs

open Text

/-! ### What is said by lines -/

namespace Docstring

/-- The word of the lines about parameters. -/
def parametersWord : Text := "@parameters"

/-- The first word of a line is the given one. -/
def isAbout (word line : Text) : Bool := line.words.head? = some word

/-- What follows the first word of a line, without white space at its ends. -/
def remainder (line : Text) : Text := trim (line.trimLeft.dropWhile (!ApiDocs.isBlank ·))

/-- What the last line about a word says of it; nothing when there is no such line. -/
def lastOf (word doc : Text) : Text :=
  (((Endpoint.docLines doc).filter (isAbout word)).getLast?.map remainder).getD []

/-- The parameter of a line: of exactly three words behind the first one, the name, the type, and whether the third one
    is `true`. -/
def parameter? (line : Text) : Option Parameter :=
  match (remainder line).words with
  | [name,type,required] => some ⟨name,type,required == ("true" : Text)⟩
  | _ => none

/-- The lines about parameters. -/
def parameterLines (doc : Text) : List Text := (Endpoint.docLines doc).filter (isAbout parametersWord)

/-- The lines about parameters that do not give one. -/
def malformedLines (doc : Text) : List Text := (parameterLines doc).filter (parameter? · matches none)

end Docstring

open Docstring

/-- The endpoint that the lines of a docstring describe. -/
def Endpoint.described (handler doc : Text) : Endpoint where
  handler := handler
  description := lastOf "@docs" doc
  path := lastOf "@path" doc
  method := lastOf "@method" doc
  responseType := lastOf "@response" doc
  parameters := (parameterLines doc).filterMap parameter?

/-! ### Lines -/

/-- A text without white space at its end. -/
def Text.IsTight (t : Text) : Prop := ∀ c ∈ t.getLast?, ApiDocs.isBlank c = false

instance (t : Text) : Decidable t.IsTight := inferInstanceAs (Decidable (∀ c ∈ t.getLast?, _))

theorem Text.trimRight_eq_self {t : Text} (tight : t.IsTight) : t.trimRight = t := by
  rcases List.eq_nil_or_concat t with rfl | ⟨before,c,rfl⟩
  · rfl
  · have last : ApiDocs.isBlank c = false := tight c (by simp)
    simp [trimRight,last]

theorem Text.isTight_trim (t : Text) : t.trim.IsTight := by
  intro c member
  have unseen := List.head?_dropWhile_not ApiDocs.isBlank t.trimLeft.reverse
  rw [trim,trimRight,List.getLast?_reverse] at member
  simpa [Option.mem_def.mp member] using unseen

/-- The end of a text without white space at its end has none either. -/
theorem Text.IsTight.of_suffix {t u : Text} (tight : t.IsTight) (tail : u <:+ t) : u.IsTight := by
  obtain ⟨before,rfl⟩ := tail
  intro c member
  refine tight c ?_
  rw [List.getLast?_append,Option.mem_def.mp member]
  rfl

/-- A line has no white space in front that could be removed again. -/
theorem Text.trimLeft_trim (t : Text) : t.trim.trimLeft = t.trim := by
  cases shape : t.trim with
  | nil => rfl
  | cons c rest =>
    have unseen := List.head?_dropWhile_not ApiDocs.isBlank t
    have split := trimRight_append t.trimLeft
    rw [show t.trimLeft.trimRight = c :: rest from shape,List.cons_append] at split
    rw [show t.dropWhile ApiDocs.isBlank = t.trimLeft from rfl,← split] at unseen
    rw [trimLeft,List.dropWhile_cons_of_neg (by simpa using unseen)]

/-- A line is read into its first word and the remainder. -/
theorem firstWord?_trim (t : Text) : t.trim.firstWord? = t.trim.words.head?.map fun word => (word,remainder t.trim) := by
  rw [head?_words]
  unfold firstWord?
  dsimp only
  split
  · rfl
  · have behind : IsTight (trimLeft (t.trim.trimLeft.dropWhile (!ApiDocs.isBlank ·))) := (isTight_trim t).of_suffix
      (((List.dropWhile_suffix _).trans (List.dropWhile_suffix _)).trans (List.dropWhile_suffix _))
    have trimmed : remainder t.trim = trimLeft (t.trim.trimLeft.dropWhile (!ApiDocs.isBlank ·)) := trimRight_eq_self behind
    simp [trimmed]

/-- A line begins with the first sign of its first word. -/
theorem head?_of_head_words {t word : Text} (first : t.trim.words.head? = some word) : t.trim.head? = word.head? := by
  rw [head?_words,Option.map_eq_some_iff] at first
  obtain ⟨⟨own,rest⟩,found,rfl⟩ := first
  unfold firstWord? at found
  dsimp only at found
  split at found
  · cases found
  · rename_i filled
    rw [trimLeft_trim] at found filled
    cases found
    cases shape : t.trim with
    | nil => rw [shape] at filled; exact absurd rfl filled
    | cons c more =>
      have solid : ApiDocs.isBlank c = false := by
        have unseen := List.head?_dropWhile_not ApiDocs.isBlank t.trim
        rw [show t.trim.dropWhile ApiDocs.isBlank = c :: more from (trimLeft_trim t).trans shape] at unseen
        exact unseen
      simp [solid]

namespace Directive

/-- What a line says whose first word is the given one. -/
def ofWord? (line word : Text) : Option Directive :=
  if word = docsWord then some (.description (remainder line))
  else if word = ("@path" : Text) then some (.path (remainder line))
  else if word = ("@method" : Text) then some (.method (remainder line))
  else if word = ("@response" : Text) then some (.responseType (remainder line))
  else if word = parametersWord then
    match parameter? line with
    | some p => some (.parameter p)
    | none => some .malformed
  else none

theorem ofWord?_parametersWord (line : Text) :
    ofWord? line parametersWord = match parameter? line with
      | some p => some (.parameter p)
      | none => some .malformed := rfl

theorem head?_of_ofWord? {line word : Text} (known : ofWord? line word ≠ none) : word.head? = some 0x40 := by
  unfold ofWord? at known
  split_ifs at known with docs path method response parameters
  · rw [docs]; rfl
  · rw [path]; rfl
  · rw [method]; rfl
  · rw [response]; rfl
  · rw [parameters]; rfl
  · exact absurd rfl known

/-- A line is recognised by its first word. -/
theorem ofLine?_trim (t : Text) : ofLine? t.trim = t.trim.words.head?.bind (ofWord? t.trim) := by
  unfold ofLine?
  rw [firstWord?_trim]
  cases first : t.trim.words.head? with
  | none => simp
  | some word =>
    by_cases marked : t.trim.startsWith "@" = true
    · simp only [marked]
      rfl
    · have unknown : ofWord? t.trim word = none := by
        by_contra known
        have front := (head?_of_head_words first).trans (head?_of_ofWord? known)
        obtain ⟨rest,shape⟩ := List.head?_eq_some_iff.mp front
        exact marked (by rw [shape]; rfl)
      simp [marked,unknown]

end Directive

/-! ### Fields -/

/-- The fields of an endpoint that one directive each gives. -/
inductive Field where
  | description
  | path
  | method
  | responseType

namespace Field

/-- The word of a field's directive. -/
def word : Field → Text
  | description => docsWord
  | path => "@path"
  | method => "@method"
  | responseType => "@response"

/-- The field of an endpoint. -/
def of : Field → Endpoint → Text
  | description => Endpoint.description
  | path => Endpoint.path
  | method => Endpoint.method
  | responseType => Endpoint.responseType

/-- What a directive says of a field. -/
def said? : Field → Directive → Option Text
  | description, .description value => some value
  | path, .path value => some value
  | method, .method value => some value
  | responseType, .responseType value => some value
  | _, _ => none

/-- The lines about the word of a field, and no others, say something of it. -/
theorem ofWord?_bind (field : Field) (line w : Text) :
    (Directive.ofWord? line w).bind field.said? = if w = field.word then some (remainder line) else none := by
  unfold Directive.ofWord?
  by_cases docs : w = docsWord
  · subst docs; cases field <;> rfl
  by_cases path : w = ("@path" : Text)
  · subst path; cases field <;> rfl
  by_cases method : w = ("@method" : Text)
  · subst method; cases field <;> rfl
  by_cases response : w = ("@response" : Text)
  · subst response; cases field <;> rfl
  have other : w ≠ field.word := by
    cases field with
    | description => exact docs
    | path => exact path
    | method => exact method
    | responseType => exact response
  rw [if_neg docs,if_neg path,if_neg method,if_neg response,if_neg other]
  split_ifs
  · cases parameter? line <;> cases field <;> rfl
  · rfl

end Field

/-! ### Docstrings -/

namespace Endpoint

/-- What the lines of a docstring say of something that only the lines about one word are about. -/
theorem filterMap_docLines {α : Type} {value? : Directive → Option α} {word : Text} {said? : Text → Option α}
    (own : ∀ line w, (Directive.ofWord? line w).bind value? = if w = word then said? line else none) (doc : Text) :
    ((docLines doc).filterMap Directive.ofLine?).filterMap value? =
      ((docLines doc).filter (isAbout word)).filterMap said? := by
  rw [List.filterMap_filterMap,List.filterMap_filter]
  refine List.filterMap_congr fun line member => ?_
  obtain ⟨t,_,rfl⟩ := List.mem_map.mp member
  rw [Directive.ofLine?_trim]
  unfold isAbout
  cases t.trim.words.head? with
  | none => simp
  | some first =>
    rw [Option.bind_some,own]
    by_cases same : first = word <;> simp [same]

/-- What a directive adds to the parameters. -/
def parameterOf? : Directive → Option Parameter
  | .parameter p => some p
  | _ => none

/-- Of the directives of a field the last one counts, each directive for a parameter adds one, and nothing else changes. -/
theorem foldl_add (ds : List Directive) (e : Endpoint) :
    ds.foldl add e = { e with
      description := (ds.filterMap Field.description.said?).getLast?.getD e.description
      path := (ds.filterMap Field.path.said?).getLast?.getD e.path
      method := (ds.filterMap Field.method.said?).getLast?.getD e.method
      responseType := (ds.filterMap Field.responseType.said?).getLast?.getD e.responseType
      parameters := e.parameters ++ ds.filterMap parameterOf? } := by
  induction ds generalizing e with
  | nil => simp
  | cons d rest ih =>
    rw [List.foldl_cons,ih]
    cases d with
    | parameter p => simp [add,Field.said?,parameterOf?]
    | _ =>
      simp [add,Field.said?,List.getLast?_cons]
      rfl

/-- The last directive of a field is that of the last line about its word. -/
theorem getLast?_said (field : Field) (doc : Text) :
    (((docLines doc).filterMap Directive.ofLine?).filterMap field.said?).getLast?.getD [] = lastOf field.word doc := by
  rw [filterMap_docLines field.ofWord?_bind,List.filterMap_eq_map',List.getLast?_map]
  rfl

theorem ofWord?_bind_parameter (line w : Text) :
    (Directive.ofWord? line w).bind parameterOf? = if w = parametersWord then parameter? line else none := by
  by_cases about : w = parametersWord
  · subst about
    rw [Directive.ofWord?_parametersWord,if_pos rfl]
    cases parameter? line <;> rfl
  · unfold Directive.ofWord?
    split_ifs <;> rfl

/-- The endpoint of a docstring is read off its lines. -/
theorem ofDocstring_eq (handler doc : Text) : ofDocstring handler doc = described handler doc := by
  rw [ofDocstring,foldl_add,filterMap_docLines ofWord?_bind_parameter]
  simp only [getLast?_said]
  rfl

/-- Of the lines of a docstring those are dropped that are about a parameter and do not give one. -/
theorem droppedLines_eq (doc : Text) : droppedLines doc = malformedLines doc := by
  unfold droppedLines malformedLines parameterLines
  rw [List.filter_filter]
  refine List.filter_congr fun line member => ?_
  obtain ⟨t,_,rfl⟩ := List.mem_map.mp member
  unfold isDropped isAbout
  rw [Directive.ofLine?_trim]
  cases t.trim.words.head? with
  | none => simp
  | some first =>
    rw [Option.bind_some]
    by_cases about : first = parametersWord
    · rw [about,Directive.ofWord?_parametersWord]
      cases parameter? t.trim <;> simp
    · simp only [Option.some.injEq,about,decide_false,Bool.and_false]
      unfold Directive.ofWord?
      split_ifs <;> rfl

end Endpoint

/-- A documented function adds its endpoint, and a record for each line that is dropped. -/
theorem endpointsOf_documented (file : Text) {d : Source.Definition} (documented : d.isDocumented = true)
    (rest : List Source.Definition) :
    endpointsOf file (d :: rest) =
      ⟨(Endpoint.droppedLines d.doc).map (.droppedParameters file d.name) ++ (endpointsOf file rest).events,
        (endpointsOf file rest).result.map (Endpoint.ofDocstring d.name d.doc :: ·)⟩ := by
  have word : d.doc.firstWord?.map (·.1) = some docsWord := of_decide_eq_true documented
  have trigger : triggerWord d.doc = .ok (some docsWord) := by
    obtain ⟨⟨first,behind⟩,found,rfl⟩ := Option.map_eq_some_iff.mp word
    have filled : d.doc ≠ [] := by
      intro empty
      rw [empty] at found
      cases found
    simp [triggerWord,filled,found]
  unfold Source.Definition.doc at trigger
  rw [endpointsOf]
  dsimp only
  rw [trigger]
  rfl

/-- A docstring is read line by line. Its endpoint is the one that its lines describe, whatever they are; the lines that are
    dropped are those about parameters that do not give one, and where a documented function is read, one record for
    debugging comes of each of them, and nothing else. A docstring whose first word marks documented functions has a line
    about that word. -/
theorem ofDocstring_described (handler doc : Text) :
    Endpoint.ofDocstring handler doc = Endpoint.described handler doc ∧
    Endpoint.droppedLines doc = malformedLines doc ∧
    (∀ file line, (Event.droppedParameters file handler line).severity = .debug) ∧
    (∀ file d rest, d.name = handler → d.doc = doc → d.isDocumented = true → endpointsOf file (d :: rest) =
      ⟨(malformedLines doc).map (.droppedParameters file handler) ++ (endpointsOf file rest).events,
        (endpointsOf file rest).result.map (Endpoint.described handler doc :: ·)⟩) ∧
    (doc.words.head? = some docsWord → ∃ line ∈ Endpoint.docLines doc, isAbout docsWord line = true) := by
  have described := Endpoint.ofDocstring_eq handler doc
  have dropped := Endpoint.droppedLines_eq doc
  refine ⟨described,dropped,fun _ _ => rfl,?_,?_⟩
  · rintro file d rest rfl rfl documented
    rw [endpointsOf_documented file documented,described,dropped]
  · intro first
    obtain ⟨line,member,own⟩ := exists_line_of_head_words first
    exact ⟨line.trim,List.mem_map_of_mem member,by simp [isAbout,own]⟩

/-! White space of several kinds stands in a docstring: a line separator ends a line, a unit separator and a no-break space
do not. The second description counts, and of the lines about parameters the second one is dropped. -/

private def mixedDoc : Text :=
  "@docs a\u2028\u00a0@docs\x1fb \n@methods PUT\x0b@parameters id\u3000int true\n@parameters id"

private def mixedFunction : Source.Definition := ⟨"show",some mixedDoc⟩

theorem ofDocstring_described_mixed :
    mixedFunction.isDocumented = true ∧
    endpointsOf "a.py" [mixedFunction] =
      ⟨[.droppedParameters "a.py" "show" "@parameters id"],
        .ok [{ handler := "show", description := "b", parameters := [⟨"id","int",true⟩] }]⟩ ∧
    mixedDoc.words.head? = some docsWord ∧ ∃ line ∈ Endpoint.docLines mixedDoc, isAbout docsWord line = true := by
  have kept : mixedFunction.doc = mixedDoc := by decide +kernel
  have first : mixedDoc.words.head? = some docsWord := by decide +kernel
  have documented : mixedFunction.isDocumented = true := by
    rw [head?_words,← kept] at first
    exact decide_eq_true first
  obtain ⟨_,_,_,read,exists_line⟩ := ofDocstring_described "show" mixedDoc
  refine ⟨documented,?_,first,exists_line first⟩
  exact (read "a.py" mixedFunction [] rfl kept documented).trans rfl

end ApiDocs
