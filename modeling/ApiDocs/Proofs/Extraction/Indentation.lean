import ApiDocs.Proofs.Extraction.Outcome
import ApiDocs.Proofs.Text.Contents
import Mathlib.Logic.Relation

/-!
White space around the lines of a docstring is of no account. What is read of a docstring depends on the contents of its
lines alone (`reading_eq_of_contents`), and cleaning changes none of them (`Docstring.contents_clean`). So a docstring says
what it said before it was cleaned, and what it says with other white space at the edges of its lines (`reading_clean`).
-/
namespace ApiDocs

open Text

/-! ### Cleaning -/

theorem Text.join_splitOn (sep : Nat) (t : Text) : join [sep] (splitOn sep t) = t := by
  induction t with
  | nil => rfl
  | cons c rest ih =>
    obtain ⟨part,parts,split⟩ := List.exists_cons_of_ne_nil (splitOn_ne_nil sep rest)
    by_cases same : c = sep
    · rw [splitOn,if_pos same,split,join_cons_cons,← split,ih,same]
      rfl
    · obtain ⟨_,_,before,after⟩ := splitOn_cons same rest
      rw [split] at before
      cases before
      rw [after,← ih,split]
      cases parts <;> simp [join_cons_cons]

theorem Text.contents_join (lines : List Text) : contents (join [0x0A] lines) = lines.flatMap contents := by
  induction lines with
  | nil => rfl
  | cons first rest ih =>
    cases rest with
    | nil => simp
    | cons second more =>
      rw [join_cons_cons,List.singleton_append,contents_append_boundary rfl,ih]
      rfl

namespace Docstring

theorem expandTabs_eq_self {t : Text} (noTab : 0x09 ∉ t) (column : Nat) : expandTabs column t = t := by
  induction t generalizing column with
  | nil => rfl
  | cons c rest ih =>
    rw [List.mem_cons,not_or] at noTab
    rw [expandTabs,if_neg (Ne.symm noTab.1),ih noTab.2,ih noTab.2,ite_self]

/-- The lines that are dropped at both ends are empty. -/
theorem flatMap_trimEmpty {α : Type} {f : Text → List α} (silent : f [] = []) (lines : List Text) :
    (trimEmpty lines).flatMap f = lines.flatMap f := by
  have quiet {lines : List Text} (empty : ∀ line ∈ lines, line.isEmpty = true) : lines.flatMap f = [] :=
    List.flatMap_eq_nil_iff.mpr fun line member => by rw [List.isEmpty_iff.mp (empty line member),silent]
  have fromFront (lines : List Text) : (lines.dropWhile List.isEmpty).flatMap f = lines.flatMap f := by
    have split : lines.takeWhile List.isEmpty ++ lines.dropWhile List.isEmpty = lines := List.takeWhile_append_dropWhile
    calc (lines.dropWhile List.isEmpty).flatMap f
      _ = (lines.takeWhile List.isEmpty ++ lines.dropWhile List.isEmpty).flatMap f := by
        rw [List.flatMap_append,quiet fun line member => List.mem_takeWhile_imp member,List.nil_append]
      _ = lines.flatMap f := by rw [split]
  have fromEnd : ((lines.reverse.dropWhile List.isEmpty).reverse).flatMap f = lines.flatMap f := by
    have split : (lines.reverse.dropWhile List.isEmpty).reverse ++ (lines.reverse.takeWhile List.isEmpty).reverse = lines := by
      rw [← List.reverse_append,List.takeWhile_append_dropWhile,List.reverse_reverse]
    calc ((lines.reverse.dropWhile List.isEmpty).reverse).flatMap f
      _ = ((lines.reverse.dropWhile List.isEmpty).reverse ++ (lines.reverse.takeWhile List.isEmpty).reverse).flatMap f := by
        rw [List.flatMap_append,quiet fun line member => List.mem_takeWhile_imp (List.mem_reverse.mp member),List.append_nil]
      _ = lines.flatMap f := by rw [split]
  rw [trimEmpty,fromFront,fromEnd]

/-- What is cut off a line with the margin says nothing. -/
theorem contents_drop {line : Text} {margin : Nat} (within : ∀ indent, indent? line = some indent → margin ≤ indent) :
    contents (line.drop margin) = contents line := by
  by_cases blank : line.IsBlank
  · have rest : Text.IsBlank (line.drop margin) := fun c member => blank c (List.mem_of_mem_drop member)
    rw [contents_of_isBlank blank,contents_of_isBlank rest]
  · obtain ⟨w,blank,behind⟩ := drop_eq_append blank within
    rw [behind,contents_blank_append blank,contents_trimLeft]

theorem contents_clean {doc : Text} (noTab : 0x09 ∉ doc) : contents (clean doc) = contents doc := by
  have whole := join_splitOn 0x0A doc
  unfold clean
  rw [expandTabs_eq_self noTab]
  split
  · rename_i none
    exact absurd none (splitOn_ne_nil _ _)
  · rename_i first rest split
    rw [← whole,split,contents_join,contents_join,flatMap_trimEmpty rfl,List.flatMap_cons,List.flatMap_cons,
      contents_trimLeft]
    cases least : margin? rest with
    | none => rfl
    | some margin =>
      have kept : rest.flatMap (fun line => contents (line.drop margin)) = rest.flatMap contents :=
        List.flatMap_congr fun line member => contents_drop (margin?_le least line member)
      rw [List.flatMap_map,kept]

end Docstring

/-! ### Reading -/

/-- What is read of a docstring as it stands: nothing, or the records of the lines that are dropped and an endpoint. -/
def reading (file handler doc : Text) : Except ExtractionError (Option (List Event × Endpoint)) :=
  (triggerWord doc).map fun word =>
    if word = some docsWord then
      some ((Endpoint.droppedLines doc).map (.droppedParameters file handler),Endpoint.ofDocstring handler doc)
    else none

/-- A function adds what is read of its docstring after it was cleaned. -/
theorem endpointsOf_cons (file : Text) (d : Source.Definition) (rest : List Source.Definition) :
    endpointsOf file (d :: rest) =
      match reading file d.name d.doc with
      | .error e => ⟨[],.error e⟩
      | .ok none => endpointsOf file rest
      | .ok (some (events,e)) =>
        ⟨events ++ (endpointsOf file rest).events,(endpointsOf file rest).result.map (e :: ·)⟩ := by
  rw [endpointsOf]
  unfold reading Source.Definition.doc
  dsimp only
  cases triggerWord (Docstring.clean (d.docstring.getD [])) with
  | error e => rfl
  | ok word => by_cases documented : word = some docsWord <;> simp [Except.map,documented]

theorem Endpoint.contents_eq (doc : Text) : contents doc = (docLines doc).filter (!·.isEmpty) := rfl

theorem Endpoint.filterMap_contents (doc : Text) :
    (docLines doc).filterMap Directive.ofLine? = (contents doc).filterMap Directive.ofLine? := by
  rw [contents_eq,List.filterMap_filter]
  refine List.filterMap_congr fun line _ => ?_
  cases line <;> rfl

theorem Endpoint.droppedLines_contents (doc : Text) : droppedLines doc = (contents doc).filter isDropped := by
  rw [contents_eq,List.filter_filter,droppedLines]
  refine List.filter_congr fun line _ => ?_
  cases line with
  | nil => rfl
  | cons c rest => simp

theorem Text.words_contents (t : Text) : t.words = (contents t).flatMap words := by
  have filled (lines : List Text) : (lines.filter (!·.isEmpty)).flatMap words = lines.flatMap words := by
    induction lines with
    | nil => rfl
    | cons line rest ih => cases line <;> simp [ih]
  rw [contents,filled,List.flatMap_map,← words_lines]
  exact List.flatMap_congr fun line _ => (words_trim line).symm

/-- A docstring that is not blank has a first word. -/
theorem triggerWord_eq {doc : Text} (content : ¬ doc.IsBlank) : triggerWord doc = .ok doc.words.head? := by
  have filled : doc ≠ [] := fun empty => content (empty ▸ isBlank_nil)
  cases first : doc.firstWord? with
  | none => exact absurd ((firstWord?_eq_none doc).mp first) content
  | some found => simp [triggerWord,filled,first,head?_words]

theorem reading_eq_of_contents (file handler : Text) {doc other : Text} (content : ¬ doc.IsBlank)
    (same : contents other = contents doc) : reading file handler other = reading file handler doc := by
  have words : other.words = doc.words := by rw [words_contents,words_contents,same]
  have filled : ¬ other.IsBlank := by rwa [← words_eq_nil,words,words_eq_nil]
  unfold reading
  rw [triggerWord_eq filled,triggerWord_eq content,words]
  simp only [Endpoint.ofDocstring,Endpoint.filterMap_contents,Endpoint.droppedLines_contents,same]

/-! ### Other white space -/

namespace Docstring

/-- White space without tabs is put in where a line begins or ends. -/
inductive Widens : Text → Text → Prop
  | insert {a b : Text} (edge : AtEdge a b) {w : Text} (blank : w.IsBlank) (noTab : 0x09 ∉ w) :
    Widens (a ++ b) (a ++ w ++ b)

/-- The texts differ in white space at the edges of their lines; whole blank lines are such white space as well. -/
def Respaced : Text → Text → Prop := Relation.EqvGen Widens

theorem Widens.contents_eq {doc other : Text} (wider : Widens doc other) : contents other = contents doc := by
  obtain ⟨edge,blank,_⟩ := wider
  exact contents_insert edge blank

theorem Widens.tab_mem {doc other : Text} (wider : Widens doc other) : 0x09 ∈ other ↔ 0x09 ∈ doc := by
  obtain ⟨_,_,noTab⟩ := wider
  simp [noTab]

theorem Respaced.contents_eq {doc other : Text} (respaced : Respaced doc other) : contents other = contents doc := by
  induction respaced with
  | rel _ _ wider => exact wider.contents_eq
  | refl _ => rfl
  | symm _ _ _ ih => exact ih.symm
  | trans _ _ _ _ _ first second => exact second.trans first

theorem Respaced.tab_mem {doc other : Text} (respaced : Respaced doc other) : 0x09 ∈ other ↔ 0x09 ∈ doc := by
  induction respaced with
  | rel _ _ wider => exact wider.tab_mem
  | refl _ => rfl
  | symm _ _ _ ih => exact ih.symm
  | trans _ _ _ _ _ first second => exact second.trans first

end Docstring

/-- Cleaning a docstring without tabs, of which something is left, changes nothing in what is read of it, and neither does
    other white space at the edges of its lines: neither when it is read as it stands nor when a function with it is
    read. -/
theorem reading_clean (file handler : Text) {doc : Text} (content : ¬ doc.IsBlank) (noTab : 0x09 ∉ doc) :
    (∃ outcome, reading file handler doc = .ok outcome) ∧
    reading file handler (Docstring.clean doc) = reading file handler doc ∧
    ∀ other, Docstring.Respaced doc other →
      reading file handler (Docstring.clean other) = reading file handler doc ∧
      ∀ rest, endpointsOf file (⟨handler,some other⟩ :: rest) = endpointsOf file (⟨handler,some doc⟩ :: rest) := by
  have cleaned {other : Text} (respaced : Docstring.Respaced doc other) :
      reading file handler (Docstring.clean other) = reading file handler doc := by
    refine reading_eq_of_contents file handler content ?_
    rw [Docstring.contents_clean (respaced.tab_mem.not.mpr noTab),respaced.contents_eq]
  have own := cleaned (.refl doc)
  refine ⟨?_,own,fun other respaced => ⟨cleaned respaced,fun rest => ?_⟩⟩
  · rw [reading,triggerWord_eq content]
    exact ⟨_,rfl⟩
  · rw [endpointsOf_cons,endpointsOf_cons]
    unfold Source.Definition.doc
    dsimp only [Option.getD_some]
    rw [cleaned respaced,own]

/-! A directive is indented, and then a blank line stands in front of it instead; between the two it stands alone. -/

private def indentedDoc : Text := "@docs a\n    @path /x"

private def bareDoc : Text := "@docs a\n@path /x"

private def spreadDoc : Text := "@docs a \n\u3000\n@path /x"

private theorem respaced_indented : Docstring.Respaced indentedDoc spreadDoc := by
  have indented : Docstring.Widens bareDoc indentedDoc :=
    .insert (a := "@docs a\n") (b := "@path /x") (by decide) (w := "    ") (by decide) (by decide)
  have spread : Docstring.Widens bareDoc spreadDoc :=
    .insert (a := "@docs a") (b := "\n@path /x") (by decide) (w := " \n\u3000") (by decide) (by decide)
  exact .trans _ _ _ (.symm _ _ (.rel _ _ indented)) (.rel _ _ spread)

theorem reading_clean_indented :
    ¬ indentedDoc.IsBlank ∧ 0x09 ∉ indentedDoc ∧ Docstring.Respaced indentedDoc spreadDoc ∧
    reading "a.py" "h" indentedDoc = .ok (some ([],{ handler := "h", description := "a", path := "/x" })) ∧
    reading "a.py" "h" (Docstring.clean spreadDoc) =
      .ok (some ([],{ handler := "h", description := "a", path := "/x" })) := by
  have content : ¬ indentedDoc.IsBlank := by decide
  have noTab : 0x09 ∉ indentedDoc := by decide
  have read : reading "a.py" "h" indentedDoc = .ok (some ([],{ handler := "h", description := "a", path := "/x" })) := rfl
  obtain ⟨_,_,others⟩ := reading_clean "a.py" "h" content noTab
  exact ⟨content,noTab,respaced_indented,read,(others spreadDoc respaced_indented).1.trans read⟩

end ApiDocs
