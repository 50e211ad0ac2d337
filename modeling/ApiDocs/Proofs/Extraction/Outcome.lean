import ApiDocs.Generation
import ApiDocs.Proofs.Extraction.Docstring
import ApiDocs.Proofs.Result
import ApiDocs.Proofs.Text.Utf8

/-!
What comes of reading endpoints from a file, for every content of the file (`extractFile_correct`). The endpoints of the
documented functions are read from every module, unless a docstring in it consists of white space that cleaning does not
remove; a content that is not UTF-8 or not Python is refused by name (`extractFile_ends`). What else there is comes of the
interpreter: it reads no text with a null in it, none for which the parser runs out of calls, and none whose tree is too deep.
-/
namespace ApiDocs

namespace Source

/-- The octets are a text without a null; its line ends are line feeds. -/
def IsSource (content : Bytes) (t : Text) : Prop :=
  ∃ raw, Utf8.decode content = .ok raw ∧ 0 ∉ raw ∧ t = raw.withLineFeeds

/-- The octets are a module with the given functions. -/
def IsModule (content : Bytes) (ds : List Definition) : Prop := ∃ t, IsSource content t ∧ definitions t = .ok ds

/-- The octets are no UTF-8, or their text is no Python. -/
def IsRefused (content : Bytes) : Prop :=
  (∃ e, Utf8.decode content = .error e) ∨
  ∃ t line wording, IsSource content t ∧ definitions t = .error (.refused (.notPython line wording))

namespace Definition

/-- The docstring of a function as it is read; it is empty when there is none. -/
def doc (d : Definition) : Text := Docstring.clean (d.docstring.getD [])

/-- The docstring begins with the word that marks documented functions. -/
def isDocumented (d : Definition) : Bool := d.doc.firstWord?.map (·.1) = some docsWord

/-- The endpoint that the docstring describes. -/
def endpoint (d : Definition) : Endpoint := .ofDocstring d.name d.doc

/-- The docstring holds nothing but white space, and a line after its first is not empty. -/
def IsHollow (d : Definition) : Prop :=
  (d.docstring.getD []).IsBlank ∧ ∃ line ∈ ((d.docstring.getD []).splitOn 0x0A).tail, line ≠ []

instance (d : Definition) : Decidable d.IsHollow := inferInstanceAs (Decidable (_ ∧ _))

end Definition

end Source

open Source

/-! ### Functions -/

/-- Only a hollow docstring has no first word to ask for. -/
theorem triggerWord_doc (d : Definition) :
    triggerWord d.doc = if d.IsHollow then .error .blankDocstring else .ok (d.doc.firstWord?.map (·.1)) := by
  have hollow : d.IsHollow ↔ d.doc ≠ [] ∧ d.doc.IsBlank := (Docstring.clean_blank _).symm
  rw [← Text.firstWord?_eq_none] at hollow
  unfold triggerWord
  by_cases empty : d.doc = []
  · rw [if_neg (fun stays => (hollow.mp stays).1 empty),empty]
    rfl
  · cases first : d.doc.firstWord? with
    | none => simp [empty,hollow,first]
    | some found => simp [empty,hollow,first]

/-- The functions are read in order, and a hollow docstring stops everything. -/
theorem endpointsOf_result (file : Text) (ds : List Definition) :
    (endpointsOf file ds).result =
      if ∃ d ∈ ds, d.IsHollow then .error .blankDocstring
      else .ok ((ds.filter (·.isDocumented)).map (·.endpoint)) := by
  induction ds with
  | nil => simp [endpointsOf]
  | cons d rest ih =>
    have trigger := triggerWord_doc d
    unfold Definition.doc at trigger
    rw [endpointsOf]
    dsimp only
    rw [trigger]
    by_cases hollow : d.IsHollow
    · simp [hollow]
    · simp only [hollow,↓reduceIte,List.mem_cons,exists_eq_or_imp,false_or,List.filter_cons]
      by_cases documented : d.isDocumented = true
      · have word : (Docstring.clean (d.docstring.getD [])).firstWord?.map (·.1) = some docsWord := of_decide_eq_true documented
        rw [if_pos word,if_pos documented]
        dsimp only
        rw [ih]
        split <;> rfl
      · have word : ¬ (Docstring.clean (d.docstring.getD [])).firstWord?.map (·.1) = some docsWord :=
          fun same => documented (decide_eq_true same)
        rw [if_neg word,if_neg documented,ih]

/-! ### Files -/

namespace GenerationError

/-- The file that a failure to parse names. -/
def parsed? : GenerationError → Option Text
  | unreadable path _ => some path
  | extraction path (.outline (.refused (.notPython ..))) => some path
  | _ => none

end GenerationError

/-- What is true of the content of a file for each way in which reading endpoints from it ends. -/
def EndsAs (path : Text) (content : Bytes) : Except GenerationError (List Endpoint) → Prop
  | .ok found => ∃ ds, IsModule content ds ∧ (∀ d ∈ ds, ¬ d.IsHollow) ∧
      found = (ds.filter (·.isDocumented)).map (·.endpoint)
  | .error (.unreadable named reason) => named = path ∧ ∃ e, Utf8.decode content = .error e ∧ reason = e.message
  | .error (.extraction named e) => named = path ∧
      match e with
      | .null => ∃ raw, Utf8.decode content = .ok raw ∧ 0 ∈ raw
      | .outline e => ∃ t, IsSource content t ∧ definitions t = .error e
      | .blankDocstring => ∃ ds, IsModule content ds ∧ ∃ d ∈ ds, d.IsHollow
      | .surrogate _ => False
  | .error _ => False

/-- What is decoded holds no surrogate, so a text is not refused for one. -/
theorem isEncodable_of_decode {content : Bytes} {raw : Text} (decoded : Utf8.decode content = .ok raw) :
    raw.withLineFeeds.IsEncodable := by
  intro c member
  by_cases feed : c = 10 ∨ c = 13
  · rcases feed with rfl | rfl <;> rfl
  · rw [not_or] at feed
    exact (Utf8.isScalar_of_decode decoded).isEncodable c ((Text.mem_withLineFeeds feed.1 feed.2 raw).mp member)

theorem contains_null (raw : Text) : raw.withLineFeeds.contains 0 = true ↔ 0 ∈ raw := by
  rw [List.contains_iff_mem,Text.mem_withLineFeeds (by decide) (by decide)]

theorem extract_null (file : Text) {content : Bytes} {raw : Text} (decoded : Utf8.decode content = .ok raw)
    (null : 0 ∈ raw) : extract file raw.withLineFeeds = ⟨[],.error .null⟩ := by
  rw [extract,(Utf8.firstSurrogates?_eq_none _).mpr (isEncodable_of_decode decoded)]
  simp only [(contains_null raw).mpr null,↓reduceIte]

theorem extract_source (file : Text) {content : Bytes} {t : Text} (source : IsSource content t) :
    extract file t =
      match definitions t with
      | .error e => ⟨[],.error (.outline e)⟩
      | .ok ds => endpointsOf file ds := by
  obtain ⟨raw,decoded,noNull,rfl⟩ := source
  rw [extract,(Utf8.firstSurrogates?_eq_none _).mpr (isEncodable_of_decode decoded)]
  exact if_neg ((contains_null raw).not.mpr noNull)

/-- Endpoints are read from the outline of a source, when no docstring in it is hollow. -/
theorem extract_ok {file t : Text} {found : List Endpoint} (extracted : (extract file t).result = .ok found) :
    ∃ ds, definitions t = .ok ds ∧ (∀ d ∈ ds, ¬ d.IsHollow) ∧ found = (ds.filter (·.isDocumented)).map (·.endpoint) := by
  unfold extract at extracted
  split at extracted
  · cases extracted
  · split at extracted
    · cases extracted
    · cases outlined : definitions t with
      | error e =>
        rw [outlined] at extracted
        cases extracted
      | ok ds =>
        rw [outlined] at extracted
        dsimp only at extracted
        rw [endpointsOf_result] at extracted
        split at extracted
        · cases extracted
        · rename_i sound
          cases extracted
          exact ⟨ds,rfl,fun d member hollow => sound ⟨d,member,hollow⟩,rfl⟩

/-- A text with an outline in which no docstring is hollow documents the endpoints in it. -/
theorem extract_of_definitions (file : Text) {t : Text} {ds : List Definition}
    (encodable : Utf8.firstSurrogates? t = none) (noNull : t.contains 0 = false) (outlined : definitions t = .ok ds)
    (sound : ∀ d ∈ ds, ¬ d.IsHollow) :
    (extract file t).result = .ok ((ds.filter (·.isDocumented)).map (·.endpoint)) := by
  have noneHollow : ¬ ∃ d ∈ ds, d.IsHollow := fun ⟨d,member,hollow⟩ => sound d member hollow
  simp only [extract,encodable,noNull,Bool.false_eq_true,if_false,outlined]
  rw [endpointsOf_result,if_neg noneHollow]

variable {fs : Files} {p : Path} {content : Bytes}

/-! Each kind of content ends in its own way. -/

theorem extractFile_undecoded (stored : fs.read p = .ok content) {e : Utf8.DecodeError}
    (failed : Utf8.decode content = .error e) :
    (fs.extractFile p).result = .error (.unreadable p.toText e.message) := by
  simp only [Files.extractFile,stored,failed]

theorem extractFile_null (stored : fs.read p = .ok content) {raw : Text} (decoded : Utf8.decode content = .ok raw)
    (null : 0 ∈ raw) : (fs.extractFile p).result = .error (.extraction p.toText .null) := by
  simp only [Files.extractFile,stored,decoded,extract_null p.toText decoded null]
  rfl

theorem extractFile_source (stored : fs.read p = .ok content) {t : Text} (source : IsSource content t) :
    (fs.extractFile p).result =
      match definitions t with
      | .error e => .error (.extraction p.toText (.outline e))
      | .ok ds =>
        if ∃ d ∈ ds, d.IsHollow then .error (.extraction p.toText .blankDocstring)
        else .ok ((ds.filter (·.isDocumented)).map (·.endpoint)) := by
  obtain ⟨raw,decoded,noNull,rfl⟩ := id source
  simp only [Files.extractFile,stored,decoded,extract_source p.toText source,Logged.mapError]
  cases definitions raw.withLineFeeds with
  | error e => rfl
  | ok ds =>
    dsimp only
    rw [endpointsOf_result]
    split <;> rfl

/-- Reading endpoints from a file ends in the one way that its content allows. -/
theorem extractFile_correct (stored : fs.read p = .ok content) :
    EndsAs p.toText content (fs.extractFile p).result := by
  cases decoded : Utf8.decode content with
  | error e =>
    rw [extractFile_undecoded stored decoded]
    exact ⟨rfl,e,decoded,rfl⟩
  | ok raw =>
    by_cases null : 0 ∈ raw
    · rw [extractFile_null stored decoded null]
      exact ⟨rfl,raw,decoded,null⟩
    · have source : IsSource content raw.withLineFeeds := ⟨raw,decoded,null,rfl⟩
      rw [extractFile_source stored source]
      cases outlined : definitions raw.withLineFeeds with
      | error e => exact ⟨rfl,_,source,outlined⟩
      | ok ds =>
        have isModule : IsModule content ds := ⟨_,source,outlined⟩
        dsimp only
        split
        · rename_i hollow
          exact ⟨rfl,ds,isModule,hollow⟩
        · rename_i sound
          exact ⟨ds,isModule,fun d member hollow => sound ⟨d,member,hollow⟩,rfl⟩

/-- The endpoints of the documented functions of a module are read, when no docstring in it is hollow. -/
theorem extractFile_module (stored : fs.read p = .ok content) {ds : List Definition} (isModule : IsModule content ds)
    (sound : ∀ d ∈ ds, ¬ d.IsHollow) :
    (fs.extractFile p).result = .ok ((ds.filter (·.isDocumented)).map (·.endpoint)) := by
  obtain ⟨t,source,outlined⟩ := isModule
  have whole := extractFile_source stored source
  rw [outlined] at whole
  exact whole.trans (if_neg fun ⟨d,member,hollow⟩ => sound d member hollow)

/-- A content that is refused is refused by the name of its file. -/
theorem extractFile_refused (stored : fs.read p = .ok content) (refused : IsRefused content) :
    ∃ e, (fs.extractFile p).result = .error e ∧ e.parsed? = some p.toText := by
  rcases refused with ⟨e,failed⟩ | ⟨t,line,wording,source,outlined⟩
  · exact ⟨_,extractFile_undecoded stored failed,rfl⟩
  · have ends := extractFile_source stored source
    rw [outlined] at ends
    exact ⟨_,ends,rfl⟩

/-- Nothing else makes a failure to parse. -/
theorem EndsAs.refused {path : Text} {e : GenerationError} (ends : EndsAs path content (.error e))
    (parsed : e.parsed? = some path) : IsRefused content := by
  unfold GenerationError.parsed? at parsed
  split at parsed
  · obtain ⟨_,fault,failed,_⟩ := ends
    exact .inl ⟨fault,failed⟩
  · obtain ⟨_,t,source,outlined⟩ := ends
    exact .inr ⟨t,_,_,source,outlined⟩
  · cases parsed

/-- The octets of a text in UTF-8. -/
def octetsOf (t : Text) : Bytes := t.flatMap Utf8.encodePoint

/-- Source in ASCII without nulls and carriage returns is a module with the functions in its outline. -/
theorem isModule_octets {t : Text} {ds : List Definition} (ascii : t.IsAscii) (plain : 0 ∉ t ∧ 13 ∉ t)
    (outline : (definitions t).toOption = some ds) : IsModule (octetsOf t) ds :=
  ⟨t,⟨t,(Utf8.decode_encode_ascii ascii).2,plain.1,(Text.withLineFeeds_eq_self plain.2).symm⟩,
    eq_ok_of_toOption outline⟩

/-! A module of one function: once it is documented, and once its docstring is hollow. -/

private def documentedSource : Text := "def h(): '@docs x'\n"

private def hollowSource : Text := "def h(): '\\n '\n"

private def oneFile (source : Text) : Files := { root := .directory [("a.py",.file (octetsOf source))] }

private theorem isModule_documented : IsModule (octetsOf documentedSource) [⟨"h",some "@docs x"⟩] :=
  isModule_octets (by decide) (by decide) (by decide +kernel)

private theorem isModule_hollow : IsModule (octetsOf hollowSource) [⟨"h",some "\n "⟩] :=
  isModule_octets (by decide) (by decide) (by decide +kernel)

end ApiDocs
