import ApiDocs.Proofs.Text.Words
import Mathlib.Data.List.Basic

/-!
What stands in the lines of a text. Lines are cut at every line end (`flatMap_lines`), so their contents are those of the
text before a line end and of the text behind it (`contents_append_boundary`), and white space at the edge of a line adds
nothing to them (`contents_insert`).
-/
namespace ApiDocs.Text

/-- No line ends in the text. -/
def IsLine (t : Text) : Prop := ∀ c ∈ t, isLineBoundary c = false

instance (t : Text) : Decidable t.IsLine := inferInstanceAs (Decidable (∀ c ∈ t, _))

theorem isLine_append (a b : Text) : IsLine (a ++ b) ↔ a.IsLine ∧ b.IsLine := List.forall_mem_append

theorem lines_append {l : Text} (line : l.IsLine) (t : Text) :
    lines (l ++ t) = match lines t with
      | [] => if l.isEmpty then [] else [l]
      | first :: later => (l ++ first) :: later := by
  induction l with
  | nil => cases split : lines t <;> simp [split]
  | cons c rest ih =>
    obtain ⟨first,later⟩ := List.forall_mem_cons.mp line
    rw [List.cons_append,lines_cons first,ih later]
    cases lines t with
    | nil => cases rest <;> rfl
    | cons _ _ => rfl

theorem lines_of_isLine {l : Text} (line : l.IsLine) (filled : l ≠ []) : lines l = [l] := by
  have alone := lines_append line []
  rw [List.append_nil,lines_nil] at alone
  simpa [filled] using alone

/-- What is read line by line, and says nothing of an empty line, is read of the pieces between the line ends. -/
theorem flatMap_lines {α : Type} {f : Text → List α} (silent : f [] = []) (t : Text) :
    t.lines.flatMap f = (t.splitOnP isLineBoundary).flatMap f := by
  induction t using cutInduction isLineBoundary with
  | last l line =>
    rw [List.splitOnP_eq_singleton line]
    by_cases filled : l = []
    · simp [filled,silent]
    · simp [lines_of_isLine line filled]
  | more l c u line boundary ih =>
    rw [lines_append line,List.splitOnP_append_cons l u boundary,List.splitOnP_eq_singleton line]
    by_cases pair : c = 13 ∧ u.head? = some 10
    · obtain ⟨rfl,feed⟩ := pair
      obtain ⟨later,rfl⟩ := List.head?_eq_some_iff.mp feed
      rw [lines_boundary rfl (by simp)] at ih
      simp [lines_pair,← ih,silent]
    · rw [not_and] at pair
      simp [lines_boundary boundary pair,ih]

/-- No line ends within a line of a text. -/
theorem isLine_of_mem_lines {t line : Text} (member : line ∈ t.lines) : line.IsLine ∧ line <:+: t := by
  induction t using cutInduction isLineBoundary with
  | last l own =>
    by_cases filled : l = []
    · simp [filled] at member
    · rw [lines_of_isLine own filled] at member
      obtain rfl := List.mem_singleton.mp member
      exact ⟨own,List.infix_rfl⟩
  | more l c u own boundary ih =>
    have first : line = l → line.IsLine ∧ line <:+: l ++ c :: u := by
      rintro rfl
      exact ⟨own,(List.prefix_append line (c :: u)).isInfix⟩
    have later : line ∈ u.lines → line.IsLine ∧ line <:+: l ++ c :: u := fun among =>
      ⟨(ih among).1,(ih among).2.trans ⟨l ++ [c],[],by simp⟩⟩
    rw [lines_append own] at member
    by_cases pair : c = 13 ∧ u.head? = some 10
    · obtain ⟨rfl,feed⟩ := pair
      obtain ⟨rest,rfl⟩ := List.head?_eq_some_iff.mp feed
      simp only [lines_pair,List.append_nil,List.mem_cons] at member
      refine member.elim first fun among => later ?_
      rw [lines_boundary rfl (by simp)]
      exact List.mem_cons_of_mem _ among
    · rw [not_and] at pair
      simp only [lines_boundary boundary pair,List.append_nil,List.mem_cons] at member
      exact member.elim first later

/-! ### Contents -/

/-- What stands in the lines of a text, in order. -/
def contents (t : Text) : List Text := (t.lines.map trim).filter (!·.isEmpty)

/-- What stands in a line, if anything does. -/
def content (line : Text) : List Text := if line.trim.isEmpty then [] else [line.trim]

theorem contents_eq_splitOnP (t : Text) : contents t = (t.splitOnP isLineBoundary).flatMap content := by
  have each (lines : List Text) : (lines.map trim).filter (!·.isEmpty) = lines.flatMap content := by
    induction lines with
    | nil => rfl
    | cons line rest ih => by_cases empty : line.trim.isEmpty = true <;> simp_all [content]
  rw [contents,each,flatMap_lines rfl]

@[simp] theorem contents_nil : contents [] = [] := rfl

/-- A line end parts what stands before it from what stands behind it. -/
theorem contents_append_boundary {c : Nat} (boundary : isLineBoundary c = true) (t u : Text) :
    contents (t ++ c :: u) = contents t ++ contents u := by
  simp only [contents_eq_splitOnP,List.splitOnP_append_cons t u boundary,List.flatMap_append]

theorem contents_of_isLine {l : Text} (line : l.IsLine) : contents l = content l := by
  simp [contents_eq_splitOnP,List.splitOnP_eq_singleton line]

theorem trim_append_blank (t : Text) {w : Text} (blank : w.IsBlank) : trim (t ++ w) = t.trim := by
  have behind (u : Text) : trimRight (u ++ w) = u.trimRight := by
    rw [trimRight,List.reverse_append,List.dropWhile_append_of_pos fun c member => blank c (List.mem_reverse.mp member)]
    rfl
  have front : trimLeft (t ++ w) = if t.trimLeft.isEmpty then w.trimLeft else t.trimLeft ++ w := List.dropWhile_append
  rw [trim,trim,front]
  split
  · rename_i empty
    rw [(trimLeft_eq_nil w).mpr blank,List.isEmpty_iff.mp empty]
  · exact behind _

/-- White space in front of a text adds nothing to what stands in its lines. -/
theorem contents_blank_append {w : Text} (blank : w.IsBlank) (t : Text) : contents (w ++ t) = contents t := by
  induction w with
  | nil => rfl
  | cons c rest ih =>
    obtain ⟨first,later⟩ := (isBlank_cons c rest).mp blank
    rw [← ih later]
    by_cases boundary : isLineBoundary c = true
    · exact contents_append_boundary boundary [] (rest ++ t)
    · obtain ⟨line,lines,split⟩ := List.exists_cons_of_ne_nil (List.splitOnP_ne_nil isLineBoundary (rest ++ t))
      have padded : content (c :: line) = content line := by
        have front : trimLeft (c :: line) = trimLeft line := List.dropWhile_cons_of_pos first
        rw [content,content,trim,trim,front]
      rw [contents_eq_splitOnP,contents_eq_splitOnP,List.cons_append,List.splitOnP_cons_eq_if_modifyHead,if_neg boundary,split]
      simp [padded]

theorem contents_of_isBlank {w : Text} (blank : w.IsBlank) : contents w = [] := by
  simpa using contents_blank_append blank []

theorem contents_trimLeft (t : Text) : contents t.trimLeft = contents t := by
  have split : t.takeWhile ApiDocs.isBlank ++ t.trimLeft = t := List.takeWhile_append_dropWhile
  calc contents t.trimLeft
    _ = contents (t.takeWhile ApiDocs.isBlank ++ t.trimLeft) := (contents_blank_append (isBlank_takeWhile t) _).symm
    _ = contents t := by rw [split]

/-- White space behind a text adds nothing to what stands in its lines. -/
theorem contents_append_blank (t : Text) {w : Text} (blank : w.IsBlank) : contents (t ++ w) = contents t := by
  induction t using cutInduction isLineBoundary with
  | last l line =>
    induction w using cutInduction isLineBoundary with
    | last m second =>
      rw [contents_of_isLine ((isLine_append l m).mpr ⟨line,second⟩),contents_of_isLine line,content,content,
        trim_append_blank l blank]
    | more m c u second boundary _ =>
      obtain ⟨first,later⟩ := (isBlank_append m (c :: u)).mp blank
      have rest : contents u = [] := contents_of_isBlank fun x member => later x (List.mem_cons_of_mem c member)
      rw [← List.append_assoc,contents_append_boundary boundary,rest,
        contents_of_isLine ((isLine_append l m).mpr ⟨line,second⟩),contents_of_isLine line,content,content,
        trim_append_blank l first,List.append_nil]
  | more l c u line boundary ih =>
    rw [List.append_assoc,List.cons_append,contents_append_boundary boundary,ih,contents_append_boundary boundary]

/-- Between the two texts a line begins or ends. -/
def AtEdge (a b : Text) : Prop :=
  (∀ c ∈ a.getLast?, isLineBoundary c = true) ∨ ∀ c ∈ b.head?, isLineBoundary c = true

instance (a b : Text) : Decidable (AtEdge a b) := inferInstanceAs (Decidable (_ ∨ _))

/-- White space at the edge of a line adds nothing to what stands in the lines. -/
theorem contents_insert {a b : Text} (edge : AtEdge a b) {w : Text} (blank : w.IsBlank) :
    contents (a ++ w ++ b) = contents (a ++ b) := by
  rcases edge with begins | ends
  · rcases List.eq_nil_or_concat a with rfl | ⟨before,c,rfl⟩
    · exact contents_blank_append blank b
    · have boundary : isLineBoundary c = true := begins c (by simp)
      simp only [List.concat_eq_append,List.append_assoc,List.cons_append,List.nil_append]
      rw [contents_append_boundary boundary,contents_append_boundary boundary,contents_blank_append blank]
  · cases b with
    | nil => simpa using contents_append_blank a blank
    | cons c rest =>
      have boundary : isLineBoundary c = true := ends c rfl
      rw [contents_append_boundary boundary,contents_append_boundary boundary,contents_append_blank a blank]

end ApiDocs.Text
