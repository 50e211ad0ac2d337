import ApiDocs.Proofs.Extraction.Directives
import ApiDocs.Proofs.Extraction.Indentation

/-!
The endpoints that docstrings describe. Every text of one is a piece of its docstring, its fields are single lines without
white space at their ends, and the names and types of its parameters are words (`Endpoint.isTidy_ofDocstring`). Every such
endpoint is described by a docstring of its own (`Endpoint.ofDocstring_docstring`), so these are all there are
(`ofDocstring_image`).
-/
namespace ApiDocs

open Text Docstring

/-- No line ends in the text, and no white space stands at its ends. -/
structure Text.IsTidy (t : Text) : Prop where
  line : t.IsLine
  front : ∀ c ∈ t.head?, ApiDocs.isBlank c = false
  tight : t.IsTight

theorem Text.isTidy_nil : IsTidy [] := ⟨by simp [IsLine],by simp,by simp [IsTight]⟩

namespace Endpoint

/-- The texts of an endpoint that its docstring states. -/
def stated (e : Endpoint) : List Text :=
  [e.description,e.path,e.method,e.responseType] ++ e.parameters.flatMap fun p => [p.name,p.type]

/-- An endpoint whose fields are tidy, with parameters that have words for names and types. -/
structure IsTidy (e : Endpoint) : Prop where
  fields : ∀ field : Field, (field.of e).IsTidy
  parameters : ∀ p ∈ e.parameters, p.name.IsWord ∧ p.type.IsWord

end Endpoint

/-! ### What a docstring states -/

theorem Text.infix_of_trim (t : Text) : t.trim <:+: t :=
  (List.IsPrefix.isInfix ⟨_,trimRight_append t.trimLeft⟩).trans (List.dropWhile_suffix _).isInfix

theorem Text.isTidy_trim {t : Text} (line : t.IsLine) : t.trim.IsTidy := by
  refine ⟨fun c member => line c ((infix_of_trim t).subset member),fun c member => ?_,isTight_trim t⟩
  have unseen := List.head?_dropWhile_not ApiDocs.isBlank t.trim
  rw [show t.trim.dropWhile ApiDocs.isBlank = t.trim from trimLeft_trim t,Option.mem_def.mp member] at unseen
  exact unseen

namespace Docstring

/-- What is said in a line of a docstring is tidy, and a piece of the docstring. -/
theorem remainder_of_mem_docLines {doc line : Text} (member : line ∈ Endpoint.docLines doc) :
    (remainder line).IsTidy ∧ remainder line <:+: doc := by
  obtain ⟨t,among,rfl⟩ := List.mem_map.mp member
  obtain ⟨single,inside⟩ := isLine_of_mem_lines among
  have behind : t.trim.trimLeft.dropWhile (!ApiDocs.isBlank ·) <:+: t :=
    ((List.dropWhile_suffix _).isInfix.trans (List.dropWhile_suffix _).isInfix).trans (infix_of_trim t)
  exact ⟨isTidy_trim fun c among => single c (behind.subset among),((infix_of_trim _).trans behind).trans inside⟩

theorem lastOf_stated (word doc : Text) : (lastOf word doc).IsTidy ∧ lastOf word doc <:+: doc := by
  unfold lastOf
  cases last : ((Endpoint.docLines doc).filter (isAbout word)).getLast? with
  | none => exact ⟨isTidy_nil,(List.nil_prefix).isInfix⟩
  | some line => exact remainder_of_mem_docLines (List.mem_filter.mp (List.mem_of_getLast? last)).1

/-- The name and the type of a parameter are words of its line. -/
theorem parameter?_stated {line : Text} {p : Parameter} (found : parameter? line = some p) :
    (p.name.IsWord ∧ p.type.IsWord) ∧ p.name <:+: remainder line ∧ p.type <:+: remainder line := by
  unfold parameter? at found
  split at found
  · rename_i name type required words
    cases found
    obtain ⟨first,inFirst⟩ := isWord_of_mem_words (t := remainder line) (w := name) (by simp [words])
    obtain ⟨second,inSecond⟩ := isWord_of_mem_words (t := remainder line) (w := type) (by simp [words])
    exact ⟨⟨first,second⟩,inFirst,inSecond⟩
  · cases found

end Docstring

namespace Endpoint

theorem of_described (field : Field) (handler doc : Text) : field.of (described handler doc) = lastOf field.word doc := by
  cases field <;> rfl

/-- Whatever the docstring, its endpoint is tidy, and its texts are pieces of the docstring. -/
theorem isTidy_ofDocstring (handler doc : Text) :
    (ofDocstring handler doc).IsTidy ∧ ∀ t ∈ (ofDocstring handler doc).stated, t <:+: doc := by
  have parameter : ∀ p ∈ (described handler doc).parameters,
      (p.name.IsWord ∧ p.type.IsWord) ∧ p.name <:+: doc ∧ p.type <:+: doc := by
    intro p member
    obtain ⟨line,among,found⟩ := List.mem_filterMap.mp member
    obtain ⟨_,inside⟩ := remainder_of_mem_docLines (List.mem_filter.mp among).1
    obtain ⟨words,name,type⟩ := parameter?_stated found
    exact ⟨words,name.trans inside,type.trans inside⟩
  rw [ofDocstring_eq]
  refine ⟨⟨fun field => ?_,fun p member => (parameter p member).1⟩,?_⟩
  · rw [of_described]
    exact (lastOf_stated _ doc).1
  · unfold stated
    simp only [List.forall_mem_append,List.forall_mem_cons,List.mem_flatMap]
    refine ⟨⟨(lastOf_stated _ doc).2,(lastOf_stated _ doc).2,(lastOf_stated _ doc).2,(lastOf_stated _ doc).2,by simp⟩,?_⟩
    rintro t ⟨p,member,text⟩
    obtain ⟨_,name,type⟩ := parameter p member
    rcases List.mem_cons.mp text with rfl | text
    · exact name
    · exact List.mem_singleton.mp text ▸ type

end Endpoint

/-! ### A docstring for an endpoint -/

theorem Text.IsWord.isTidy {w : Text} (word : w.IsWord) : w.IsTidy := by
  refine ⟨fun c member => ?_,fun c member => word.solid c (List.mem_of_head? member),
    fun c member => word.solid c (List.mem_of_getLast? member)⟩
  by_contra boundary
  exact absurd (isBlank_of_isLineBoundary (by simpa using boundary)) (by simp [word.solid c member])

theorem Text.IsTidy.trimLeft_eq {t : Text} (tidy : t.IsTidy) : t.trimLeft = t := by
  cases t with
  | nil => rfl
  | cons c rest => exact List.dropWhile_cons_of_neg (by simp [tidy.front c rfl])

theorem Text.IsTidy.trim_eq {t : Text} (tidy : t.IsTidy) : t.trim = t := by
  rw [trim,tidy.trimLeft_eq,trimRight_eq_self tidy.tight]

theorem Text.lines_join {ls : List Text} (each : ∀ l ∈ ls, l.IsLine ∧ l ≠ []) : lines (join [0x0A] ls) = ls := by
  induction ls with
  | nil => rfl
  | cons first rest ih =>
    obtain ⟨⟨line,filled⟩,others⟩ := List.forall_mem_cons.mp each
    cases rest with
    | nil => rw [join_singleton,lines_of_isLine line filled]
    | cons second more =>
      rw [join_cons_cons,lines_append line,List.singleton_append,lines_boundary rfl (by simp),ih others]
      simp

/-- Two tidy texts with a blank between them are tidy. -/
theorem Text.IsTidy.pair {a b : Text} (first : a.IsTidy) (second : b.IsTidy) (filled : a ≠ [] ∧ b ≠ []) :
    IsTidy (a ++ 0x20 :: b) := by
  refine ⟨?_,fun c member => first.front c ?_,fun c member => second.tight c ?_⟩
  · exact (isLine_append _ _).mpr ⟨first.line,List.forall_mem_cons.mpr ⟨rfl,second.line⟩⟩
  · rwa [List.head?_append_of_ne_nil _ filled.1] at member
  · rwa [List.getLast?_append_of_ne_nil _ (by simp),List.getLast?_cons_of_ne_nil filled.2] at member

theorem Text.words_pair {w : Text} (word : w.IsWord) (t : Text) : words (w ++ 0x20 :: t) = w :: t.words := by
  rw [words_append_blank rfl,words_solid word.filled word.solid,List.singleton_append]

namespace Docstring

/-- A line about a word. -/
def lineOf (word value : Text) : Text := if value.isEmpty then word else word ++ 0x20 :: value

variable {word value : Text}

theorem isTidy_lineOf (isWord : word.IsWord) (tidy : value.IsTidy) : (lineOf word value).IsTidy := by
  unfold lineOf
  split
  · exact isWord.isTidy
  · rename_i filled
    exact isWord.isTidy.pair tidy ⟨isWord.filled,by simpa using filled⟩

theorem lineOf_ne_nil (isWord : word.IsWord) (value : Text) : lineOf word value ≠ [] := by
  unfold lineOf
  split
  · exact isWord.filled
  · simp

theorem words_lineOf (isWord : word.IsWord) (value : Text) : (lineOf word value).words = word :: value.words := by
  unfold lineOf
  split
  · rename_i empty
    rw [words_solid isWord.filled isWord.solid,List.isEmpty_iff.mp empty,words_nil]
  · exact words_pair isWord value

theorem remainder_lineOf (isWord : word.IsWord) (tidy : value.IsTidy) : remainder (lineOf word value) = value := by
  have solid : ∀ c ∈ word, (!ApiDocs.isBlank c) = true := fun c member => by simp [isWord.solid c member]
  rw [remainder,(isTidy_lineOf isWord tidy).trimLeft_eq]
  unfold lineOf
  split
  · rename_i empty
    rw [List.dropWhile_eq_nil_iff.mpr solid,List.isEmpty_iff.mp empty]
    rfl
  · have front : trimLeft (0x20 :: value) = value.trimLeft := rfl
    rw [List.dropWhile_append_of_pos solid,List.dropWhile_cons_of_neg (by decide),trim,front]
    exact tidy.trim_eq

theorem isAbout_lineOf (isWord : word.IsWord) (value other : Text) :
    isAbout other (lineOf word value) = decide (word = other) := by
  simp [isAbout,words_lineOf isWord]

end Docstring

theorem Field.isWord_word (field : Field) : field.word.IsWord := by
  cases field <;> exact ⟨by decide,by decide⟩

theorem Docstring.isWord_parametersWord : parametersWord.IsWord := ⟨by decide,by decide⟩

/-- A parameter in the words of its line. -/
def Parameter.said (p : Parameter) : Text :=
  p.name ++ 0x20 :: (p.type ++ 0x20 :: if p.required then ("true" : Text) else "false")

namespace Parameter

theorem isWord_flag (required : Bool) : IsWord (if required then ("true" : Text) else "false") := by
  cases required <;> exact ⟨by decide,by decide⟩

theorem isTidy_said {p : Parameter} (words : p.name.IsWord ∧ p.type.IsWord) : p.said.IsTidy :=
  words.1.isTidy.pair (words.2.isTidy.pair (isWord_flag p.required).isTidy ⟨words.2.filled,(isWord_flag _).filled⟩)
    ⟨words.1.filled,by simp⟩

theorem parameter?_said {p : Parameter} (words : p.name.IsWord ∧ p.type.IsWord) :
    parameter? (lineOf parametersWord p.said) = some p := by
  have flag := isWord_flag p.required
  unfold parameter?
  rw [remainder_lineOf isWord_parametersWord (isTidy_said words),said,words_pair words.1,words_pair words.2,
    words_solid flag.filled flag.solid]
  obtain ⟨name,type,required⟩ := p
  cases required <;> rfl

end Parameter

namespace Endpoint

/-- The lines of a docstring for an endpoint. -/
def directives (e : Endpoint) : List Text :=
  [Field.description,.path,.method,.responseType].map (fun field => lineOf field.word (field.of e)) ++
    e.parameters.map fun p => lineOf parametersWord p.said

/-- A docstring for an endpoint. -/
def docstring (e : Endpoint) : Text := join [0x0A] e.directives

variable {e : Endpoint}

theorem IsTidy.directives (tidy : e.IsTidy) : ∀ line ∈ e.directives, line.IsTidy ∧ line ≠ [] := by
  unfold Endpoint.directives
  rw [List.forall_mem_append,List.forall_mem_map,List.forall_mem_map]
  refine ⟨fun field _ => ⟨isTidy_lineOf field.isWord_word (tidy.fields field),lineOf_ne_nil field.isWord_word _⟩,?_⟩
  intro p member
  exact ⟨isTidy_lineOf isWord_parametersWord (Parameter.isTidy_said (tidy.parameters p member)),
    lineOf_ne_nil isWord_parametersWord _⟩

theorem IsTidy.lines_docstring (tidy : e.IsTidy) : e.docstring.lines = e.directives :=
  lines_join fun line member => ⟨(tidy.directives line member).1.line,(tidy.directives line member).2⟩

theorem IsTidy.docLines_docstring (tidy : e.IsTidy) : docLines e.docstring = e.directives := by
  have same : e.directives.map Text.trim = e.directives.map id :=
    List.map_congr_left fun line member => (tidy.directives line member).1.trim_eq
  rw [docLines,tidy.lines_docstring,same,List.map_id]

/-- One line is about each field. -/
theorem filter_directives (field : Field) :
    e.directives.filter (isAbout field.word) = [lineOf field.word (field.of e)] := by
  have others : (e.parameters.map fun p => lineOf parametersWord p.said).filter (isAbout field.word) = [] := by
    rw [List.filter_eq_nil_iff,List.forall_mem_map]
    intro p _
    rw [isAbout_lineOf isWord_parametersWord]
    cases field <;> decide
  rw [directives,List.filter_append,others,List.append_nil,List.filter_map]
  have own : [Field.description,.path,.method,.responseType].filter
      (isAbout field.word ∘ fun other => lineOf other.word (other.of e)) = [field] := by
    simp only [List.filter_cons,Function.comp,isAbout_lineOf (Field.isWord_word _)]
    cases field <;> rfl
  rw [own,List.map_singleton]

theorem filter_directives_parameters :
    e.directives.filter (isAbout parametersWord) = e.parameters.map fun p => lineOf parametersWord p.said := by
  have fields : ([Field.description,.path,.method,.responseType].map fun field => lineOf field.word (field.of e)).filter
      (isAbout parametersWord) = [] := by
    rw [List.filter_eq_nil_iff,List.forall_mem_map]
    intro field _
    rw [isAbout_lineOf field.isWord_word]
    cases field <;> decide
  rw [directives,List.filter_append,fields,List.nil_append,List.filter_eq_self,List.forall_mem_map]
  intro p _
  rw [isAbout_lineOf isWord_parametersWord]
  exact decide_eq_true rfl

theorem IsTidy.lastOf_docstring (tidy : e.IsTidy) (field : Field) : lastOf field.word e.docstring = field.of e := by
  rw [lastOf,tidy.docLines_docstring,filter_directives]
  exact remainder_lineOf field.isWord_word (tidy.fields field)

theorem IsTidy.parameters_docstring (tidy : e.IsTidy) :
    (parameterLines e.docstring).filterMap parameter? = e.parameters := by
  have each : e.parameters.filterMap (fun p => parameter? (lineOf parametersWord p.said)) = e.parameters.filterMap some :=
    List.filterMap_congr fun p member => Parameter.parameter?_said (tidy.parameters p member)
  rw [parameterLines,tidy.docLines_docstring,filter_directives_parameters,List.filterMap_map]
  exact each.trans List.filterMap_some

/-- A tidy endpoint is read back from its docstring. -/
theorem IsTidy.ofDocstring_docstring (tidy : e.IsTidy) (bare : e.responses = []) :
    ofDocstring e.handler e.docstring = e := by
  rw [ofDocstring_eq]
  calc described e.handler e.docstring
    _ = { e with responses := [] } := by
      simp only [described,mk.injEq,true_and,and_true]
      exact ⟨tidy.lastOf_docstring .description,tidy.lastOf_docstring .method,tidy.lastOf_docstring .path,
        tidy.lastOf_docstring .responseType,tidy.parameters_docstring⟩
    _ = e := by rw [← bare]

theorem IsTidy.words_docstring (tidy : e.IsTidy) : e.docstring.words.head? = some docsWord := by
  rw [← words_lines,tidy.lines_docstring]
  exact congrArg List.head? (congrArg (· ++ _) (words_lineOf Field.description.isWord_word e.description))

/-- What holds of the signs that are printed, of line feeds and of what is stated holds of all of the docstring. -/
theorem forall_mem_docstring {P : Nat → Prop} (feed : P 0x0A) (printed : ∀ c, 0x20 ≤ c → c < 0x7F → P c)
    (own : ∀ t ∈ e.stated, ∀ c ∈ t, P c) : ∀ c ∈ e.docstring, P c := by
  have stock {t : Text} (ascii : ∀ c ∈ t, 0x20 ≤ c ∧ c < 0x7F) : ∀ c ∈ t, P c := fun c member =>
    printed c (ascii c member).1 (ascii c member).2
  have line {word value : Text} (first : ∀ c ∈ word, P c) (rest : ∀ c ∈ value, P c) : ∀ c ∈ lineOf word value, P c := by
    unfold lineOf
    split
    · exact first
    · exact List.forall_mem_append.mpr ⟨first,List.forall_mem_cons.mpr ⟨printed 0x20 (by decide) (by decide),rest⟩⟩
  refine forall_mem_join (List.forall_mem_singleton.mpr feed) ?_
  unfold directives
  rw [List.forall_mem_append,List.forall_mem_map,List.forall_mem_map]
  constructor
  · intro field _
    refine line (stock ?_) (own (field.of e) ?_)
    · cases field <;> decide
    · cases field <;> simp [stated,Field.of]
  · intro p member
    have among {t : Text} (text : t ∈ [p.name,p.type]) : t ∈ e.stated :=
      List.mem_append_right _ (List.mem_flatMap.mpr ⟨p,member,text⟩)
    have blank : P 0x20 := printed 0x20 (by decide) (by decide)
    have flag : ∀ c ∈ (if p.required then ("true" : Text) else "false"), P c := by
      cases p.required <;> exact stock (by decide)
    refine line (stock (by decide)) ?_
    unfold Parameter.said
    rw [List.forall_mem_append,List.forall_mem_cons,List.forall_mem_append,List.forall_mem_cons]
    exact ⟨own p.name (among (by simp)),blank,own p.type (among (by simp)),blank,flag⟩

theorem isScalar_docstring (scalar : ∀ t ∈ e.stated, t.IsScalar) : e.docstring.IsScalar := by
  refine forall_mem_docstring rfl (fun c least most => ?_) scalar
  simp [isScalar,isSurrogate]
  omega

theorem tab_not_mem_docstring (noTab : ∀ t ∈ e.stated, 0x09 ∉ t) : 0x09 ∉ e.docstring := by
  have each : ∀ c ∈ e.docstring, c ≠ 0x09 :=
    forall_mem_docstring (by decide) (fun c least _ => by omega) fun t among c member tab => noTab t among (tab ▸ member)
  exact fun member => each 0x09 member rfl

end Endpoint

/-! ### Docstrings that are clean -/

namespace Docstring

theorem trimEmpty_eq_self {lines : List Text} (filled : ∀ line ∈ lines, line ≠ []) : trimEmpty lines = lines := by
  have stays {lines : List Text} (filled : ∀ line ∈ lines, line ≠ []) : lines.dropWhile List.isEmpty = lines := by
    cases lines with
    | nil => rfl
    | cons first rest => exact List.dropWhile_cons_of_neg (by simpa using filled first List.mem_cons_self)
  rw [trimEmpty,stays fun line member => filled line (List.mem_reverse.mp member),List.reverse_reverse,stays filled]

theorem indent?_of_isTidy {line : Text} (tidy : line.IsTidy) (filled : line ≠ []) : indent? line = some 0 := by
  simp [indent?,tidy.trimLeft_eq,filled]

/-- Lines without white space at their ends stay as they are. -/
theorem clean_join {lines : List Text} (each : ∀ line ∈ lines, line.IsTidy ∧ line ≠ [])
    (noTab : 0x09 ∉ join [0x0A] lines) : clean (join [0x0A] lines) = join [0x0A] lines := by
  cases lines with
  | nil => rfl
  | cons first rest =>
    have split : splitOn 0x0A (join [0x0A] (first :: rest)) = first :: rest :=
      splitOn_join (by simp) fun line member feed => by simpa [isLineBoundary] using (each line member).1.line 0x0A feed
    have whole : join [0x0A] (trimEmpty (first.trimLeft :: rest)) = join [0x0A] (first :: rest) := by
      rw [(each first List.mem_cons_self).1.trimLeft_eq,trimEmpty_eq_self fun line member => (each line member).2]
    unfold clean
    rw [expandTabs_eq_self noTab,split]
    dsimp only
    cases least : margin? rest with
    | none => exact whole
    | some margin =>
      have kept : rest.map (·.drop margin) = rest.map id := List.map_congr_left fun line member => by
        obtain ⟨tidy,filled⟩ := each line (List.mem_cons_of_mem first member)
        have zero : margin ≤ 0 := margin?_le least line member 0 (indent?_of_isTidy tidy filled)
        rw [Nat.le_zero.mp zero,List.drop_zero,id]
      dsimp only
      rw [kept,List.map_id,whole]

theorem tab_not_mem_expandTabs (column : Nat) (t : Text) : 0x09 ∉ expandTabs column t := by
  induction t generalizing column with
  | nil => simp [expandTabs]
  | cons c rest ih =>
    rw [expandTabs]
    split
    · simp [repeated,ih]
    · rename_i other
      split <;> simp [ih,Ne.symm other]

/-- No tab is left in a docstring. -/
theorem tab_not_mem_clean (doc : Text) : 0x09 ∉ clean doc := by
  have parts : ∀ line ∈ splitOn 0x0A (expandTabs 0 doc), 0x09 ∉ line := fun line member tab =>
    tab_not_mem_expandTabs 0 doc (by
      rw [← join_splitOn 0x0A (expandTabs 0 doc)]
      exact mem_join_of_mem member tab)
  have joined {lines : List Text} (each : ∀ line ∈ lines, 0x09 ∉ line) : 0x09 ∉ join [0x0A] (trimEmpty lines) := by
    intro tab
    obtain feed | ⟨line,member,inside⟩ := mem_of_mem_join tab
    · exact absurd feed (by decide)
    · exact each line ((mem_trimEmpty (List.ne_nil_of_mem inside)).mp member) inside
  unfold clean
  split
  · exact List.not_mem_nil
  · rename_i first rest split
    rw [split,List.forall_mem_cons] at parts
    refine joined (List.forall_mem_cons.mpr ⟨fun tab => parts.1 ((List.dropWhile_suffix _).subset tab),?_⟩)
    cases margin? rest with
    | none => exact parts.2
    | some margin => exact List.forall_mem_map.mpr fun line member tab => parts.2 line member (List.mem_of_mem_drop tab)

end Docstring

theorem Endpoint.IsTidy.clean_docstring {e : Endpoint} (tidy : e.IsTidy) (noTab : ∀ t ∈ e.stated, 0x09 ∉ t) :
    clean e.docstring = e.docstring :=
  clean_join tidy.directives (tab_not_mem_docstring noTab)

/-! ### The image -/

namespace Source.Definition

/-- A documented function gives a tidy endpoint without a tab. -/
theorem isTidy_endpoint (d : Definition) : d.endpoint.IsTidy ∧ ∀ t ∈ d.endpoint.stated, 0x09 ∉ t := by
  obtain ⟨tidy,inside⟩ := Endpoint.isTidy_ofDocstring d.name d.doc
  exact ⟨tidy,fun t stated tab => tab_not_mem_clean _ ((inside t stated).subset tab)⟩

end Source.Definition

/-- What a docstring does not state: the handler, and responses. -/
theorem Endpoint.ofDocstring_unstated (handler doc : Text) :
    (ofDocstring handler doc).handler = handler ∧ (ofDocstring handler doc).responses = [] := by
  rw [ofDocstring_eq]
  exact ⟨rfl,rfl⟩

/-- What docstrings that begin with the word for it describe. It is exactly the tidy endpoints of their handler without
    responses, and a docstring can be chosen in which no surrogate stands, if none is stated. Of these the functions give
    those without a tab, since tabs become blanks when a docstring is cleaned. So no line ends in the key of an endpoint
    that is read from a source, and no white space stands at the ends of its method and path. -/
theorem ofDocstring_image (handler : Text) (e : Endpoint) :
    ((∃ doc : Text, doc.words.head? = some docsWord ∧ Endpoint.ofDocstring handler doc = e) ↔
      e.IsTidy ∧ e.handler = handler ∧ e.responses = []) ∧
    ((∃ doc : Text, doc.IsScalar ∧ doc.words.head? = some docsWord ∧ Endpoint.ofDocstring handler doc = e) ↔
      e.IsTidy ∧ e.handler = handler ∧ e.responses = [] ∧ ∀ t ∈ e.stated, t.IsScalar) ∧
    ((∃ d : Source.Definition, d.name = handler ∧ d.isDocumented = true ∧ d.endpoint = e) ↔
      e.IsTidy ∧ e.handler = handler ∧ e.responses = [] ∧ ∀ t ∈ e.stated, 0x09 ∉ t) ∧
    ∀ file source found, (extract file source).result = .ok found → e ∈ found →
      e.IsTidy ∧ e.key.IsLine ∧ e.method.IsTidy ∧ e.path.IsTidy := by
  have read (doc : Text) : (Endpoint.ofDocstring handler doc).IsTidy ∧ (Endpoint.ofDocstring handler doc).handler = handler ∧
      (Endpoint.ofDocstring handler doc).responses = [] :=
    ⟨(Endpoint.isTidy_ofDocstring handler doc).1,Endpoint.ofDocstring_unstated handler doc⟩
  refine ⟨⟨?_,?_⟩,⟨?_,?_⟩,⟨?_,?_⟩,?_⟩
  · rintro ⟨doc,_,rfl⟩
    exact read doc
  · rintro ⟨tidy,rfl,bare⟩
    exact ⟨e.docstring,tidy.words_docstring,tidy.ofDocstring_docstring bare⟩
  · rintro ⟨doc,scalar,_,rfl⟩
    obtain ⟨tidy,own,bare⟩ := read doc
    exact ⟨tidy,own,bare,fun t stated c member =>
      scalar c (((Endpoint.isTidy_ofDocstring handler doc).2 t stated).subset member)⟩
  · rintro ⟨tidy,rfl,bare,scalar⟩
    exact ⟨e.docstring,Endpoint.isScalar_docstring scalar,tidy.words_docstring,tidy.ofDocstring_docstring bare⟩
  · rintro ⟨d,rfl,_,rfl⟩
    obtain ⟨tidy,noTab⟩ := d.isTidy_endpoint
    exact ⟨tidy,(read d.doc).2.1,(read d.doc).2.2,noTab⟩
  · rintro ⟨tidy,rfl,bare,noTab⟩
    have kept : (⟨e.handler,some e.docstring⟩ : Source.Definition).doc = e.docstring := tidy.clean_docstring noTab
    refine ⟨⟨e.handler,some e.docstring⟩,rfl,?_,?_⟩
    · rw [Source.Definition.isDocumented,kept,← head?_words]
      exact decide_eq_true tidy.words_docstring
    · rw [Source.Definition.endpoint,kept]
      exact tidy.ofDocstring_docstring bare
  · intro file source found extracted member
    obtain ⟨ds,_,_,rfl⟩ := extract_ok extracted
    obtain ⟨d,_,rfl⟩ := List.mem_map.mp member
    have tidy := d.isTidy_endpoint.1
    have method := tidy.fields .method
    have path := tidy.fields .path
    refine ⟨tidy,?_,method,path⟩
    exact (isLine_append _ _).mpr ⟨method.line,List.forall_mem_cons.mpr ⟨rfl,path.line⟩⟩

/-! A path that looks like a directive can be documented; a method in which a line ends cannot, whatever the docstring. -/

private def oddEndpoint : Endpoint := { handler := "h", path := "@method PUT", parameters := [⟨"@docs","int",true⟩] }

private def brokenEndpoint : Endpoint := { handler := "h", method := "GET\u2028PUT" }

theorem ofDocstring_image_odd :
    (∃ d : Source.Definition, d.name = "h" ∧ d.isDocumented = true ∧ d.endpoint = oddEndpoint) ∧
    (¬ ∃ doc : Text, doc.words.head? = some docsWord ∧ Endpoint.ofDocstring "h" doc = brokenEndpoint) := by
  have tidy : oddEndpoint.IsTidy := by
    refine ⟨fun field => ?_,fun p member => ?_⟩
    · cases field <;> exact ⟨by decide,by decide,by decide⟩
    · rw [List.mem_singleton.mp member]
      exact ⟨⟨by decide,by decide⟩,⟨by decide,by decide⟩⟩
  refine ⟨(ofDocstring_image "h" oddEndpoint).2.2.1.mpr ⟨tidy,rfl,rfl,by decide⟩,fun described => ?_⟩
  obtain ⟨broken,_⟩ := (ofDocstring_image "h" brokenEndpoint).1.mp described
  exact absurd (broken.fields .method).line (by decide)

end ApiDocs
