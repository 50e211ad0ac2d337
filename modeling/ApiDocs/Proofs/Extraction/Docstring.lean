import ApiDocs.Docstring
import ApiDocs.Proofs.Text.Words

/-!
White space in docstrings. Cleaning neither adds nor removes anything but white space, so a docstring of nothing else
stays one; but it need not become empty, since white space in the lines after the first is kept when no line has a
margin (`clean_blank`).
-/
namespace ApiDocs

namespace Docstring
open Text

/-- Which lines of a text are empty. -/
def emptyLines (t : Text) : List Bool := (t.splitOn 0x0A).map List.isEmpty

theorem emptyLines_feed (t : Text) : emptyLines (0x0A :: t) = true :: emptyLines t := by
  simp [emptyLines,splitOn]

theorem emptyLines_cons {c : Nat} (other : c ≠ 0x0A) (t : Text) :
    emptyLines (c :: t) = false :: (emptyLines t).tail := by
  obtain ⟨line,lines,before,after⟩ := splitOn_cons other t
  simp [emptyLines,before,after]

theorem emptyLines_blanks (n : Nat) (t : Text) :
    emptyLines (repeated (n+1) 0x20 ++ t) = false :: (emptyLines t).tail := by
  induction n with
  | zero => exact emptyLines_cons (by decide) t
  | succ n ih =>
    have first : repeated (n+2) 0x20 ++ t = 0x20 :: (repeated (n+1) 0x20 ++ t) := rfl
    rw [first,emptyLines_cons (by decide),ih,List.tail_cons]

/-- A tab becomes at least one blank, so no line becomes empty when tabs are expanded. -/
theorem emptyLines_expandTabs (column : Nat) (t : Text) : emptyLines (expandTabs column t) = emptyLines t := by
  induction t generalizing column with
  | nil => rfl
  | cons c rest ih =>
    rw [expandTabs]
    split
    · rename_i tab
      obtain ⟨n,width⟩ : ∃ n, tabWidth - column % tabWidth = n + 1 :=
        ⟨tabWidth - column % tabWidth - 1,by simp only [tabWidth]; omega⟩
      dsimp only
      rw [width,emptyLines_blanks,ih,emptyLines_cons (by omega)]
    · split
      · by_cases feed : c = 0x0A
        · rw [feed,emptyLines_feed,emptyLines_feed,ih]
        · rw [emptyLines_cons feed,emptyLines_cons feed,ih]
      · rename_i other
        have noFeed : c ≠ 0x0A := fun feed => other (.inl feed)
        rw [emptyLines_cons noFeed,emptyLines_cons noFeed,ih]

theorem isBlank_expandTabs (column : Nat) (t : Text) : (expandTabs column t).IsBlank ↔ t.IsBlank := by
  induction t generalizing column with
  | nil => rfl
  | cons c rest ih =>
    rw [expandTabs]
    split
    · rename_i tab
      have blanks (n : Nat) : (repeated n 0x20).IsBlank := fun x member => by
        rw [List.eq_of_mem_replicate member]
        rfl
      simp [isBlank_append,isBlank_cons,ih,blanks,tab,ApiDocs.isBlank]
    · split <;> rw [isBlank_cons,isBlank_cons,ih]

/-- Only empty lines are dropped at the ends. -/
theorem mem_trimEmpty {lines : List Text} {line : Text} (kept : line ≠ []) :
    line ∈ trimEmpty lines ↔ line ∈ lines := by
  have dropped (lines : List Text) : line ∈ lines.dropWhile List.isEmpty ↔ line ∈ lines := by
    induction lines with
    | nil => rfl
    | cons first rest ih =>
      rw [List.dropWhile_cons]
      split
      · rename_i empty
        have other : line ≠ first := fun same => kept (same.trans (List.isEmpty_iff.mp empty))
        rw [ih,List.mem_cons,or_iff_right other]
      · rfl
  rw [trimEmpty,dropped,List.mem_reverse,dropped,List.mem_reverse]

theorem isBlank_trimEmpty (lines : List Text) :
    (∀ line ∈ trimEmpty lines, line.IsBlank) ↔ ∀ line ∈ lines, line.IsBlank := by
  constructor
  all_goals
    intro blank line member
    by_cases empty : line = []
    · rw [empty]
      exact isBlank_nil
  · exact blank line ((mem_trimEmpty empty).mpr member)
  · exact blank line ((mem_trimEmpty empty).mp member)

/-- Nothing is left exactly when all lines are empty. -/
theorem join_trimEmpty_eq_nil (lines : List Text) : join [0x0A] (trimEmpty lines) = [] ↔ ∀ line ∈ lines, line = [] := by
  constructor
  · intro none line member
    by_contra kept
    obtain ⟨c,inside⟩ := List.exists_mem_of_ne_nil line kept
    have left : c ∈ join [0x0A] (trimEmpty lines) := mem_join_of_mem ((mem_trimEmpty kept).mpr member) inside
    exact absurd (none ▸ left) List.not_mem_nil
  · intro empty
    have all : ∀ line ∈ lines.reverse, line.isEmpty = true := by
      intro line member
      rw [empty line (List.mem_reverse.mp member)]
      rfl
    rw [trimEmpty,List.dropWhile_eq_nil_iff.mpr all]
    rfl

/-! ### The margin -/

theorem indent?_eq_none (line : Text) : indent? line = none ↔ line.IsBlank := by
  rw [← trimLeft_eq_nil]
  simp [indent?]

theorem margin?_eq_none (lines : List Text) : margin? lines = none ↔ ∀ line ∈ lines, line.IsBlank := by
  simp [margin?,indent?_eq_none]

/-- Of a line that is not blank the margin cuts off white space only. -/
theorem drop_eq_append {line : Text} (content : ¬ line.IsBlank) {margin : Nat}
    (within : ∀ indent, indent? line = some indent → margin ≤ indent) :
    ∃ w : Text, w.IsBlank ∧ line.drop margin = w ++ line.trimLeft := by
  have split : line.takeWhile ApiDocs.isBlank ++ line.trimLeft = line := List.takeWhile_append_dropWhile
  have left : line.trimLeft ≠ [] := fun none => content ((trimLeft_eq_nil line).mp none)
  have indent : indent? line = some (line.length - line.trimLeft.length) := by
    simp [indent?,left]
  have small : margin ≤ (line.takeWhile ApiDocs.isBlank).length := by
    have bound := within _ indent
    have size := congrArg List.length split
    rw [List.length_append] at size
    omega
  refine ⟨(line.takeWhile ApiDocs.isBlank).drop margin,fun c member => ?_,?_⟩
  · exact isBlank_takeWhile line c (List.mem_of_mem_drop member)
  · rw [← List.drop_append_of_le_length small,split]

/-- What stands behind the indentation of a line is not white space. -/
theorem isBlank_drop {line : Text} {margin : Nat} (within : ∀ indent, indent? line = some indent → margin ≤ indent) :
    Text.IsBlank (line.drop margin) ↔ line.IsBlank := by
  constructor
  · intro blank
    by_contra content
    obtain ⟨w,_,behind⟩ := drop_eq_append content within
    rw [behind,isBlank_append,isBlank_trimLeft] at blank
    exact content blank.2
  · intro blank c member
    exact blank c (List.mem_of_mem_drop member)

/-- The margin is not wider than the indentation of any line. -/
theorem margin?_le {lines : List Text} {margin : Nat} (least : margin? lines = some margin) :
    ∀ line ∈ lines, ∀ indent, indent? line = some indent → margin ≤ indent := by
  intro line member indent found
  have among : indent ∈ lines.filterMap indent? := List.mem_filterMap.mpr ⟨line,member,found⟩
  exact (List.min?_eq_some_iff.mp least).2 indent among

/-- Removing the margin leaves white space white space, and everything else something else. -/
theorem isBlank_outdent {lines : List Text} {margin : Nat} (least : margin? lines = some margin) :
    (∀ line ∈ lines.map (·.drop margin), Text.IsBlank line) ↔ ∀ line ∈ lines, line.IsBlank := by
  rw [List.forall_mem_map]
  exact forall₂_congr fun line member => isBlank_drop (margin?_le least line member)

/-! ### Cleaning -/

/-- Cleaning leaves white space white space, and everything else something else. -/
theorem isBlank_clean (doc : Text) : (clean doc).IsBlank ↔ doc.IsBlank := by
  rw [← isBlank_expandTabs 0 doc,← isBlank_splitOn (expandTabs 0 doc)]
  unfold clean
  split
  · rename_i none
    exact absurd none (splitOn_ne_nil _ _)
  · rename_i first rest split
    rw [split,isBlank_join,isBlank_trimEmpty,List.forall_mem_cons,List.forall_mem_cons,isBlank_trimLeft]
    cases least : margin? rest with
    | none => rfl
    | some margin => exact and_congr_right fun _ => isBlank_outdent least

/-- A docstring of white space is cleaned to nothing unless a line after its first holds some: its lines have no margin
    then, and nothing of them is removed. -/
theorem clean_eq_nil {doc : Text} (blank : doc.IsBlank) :
    clean doc = [] ↔ ∀ line ∈ (doc.splitOn 0x0A).tail, line = [] := by
  have same := emptyLines_expandTabs 0 doc
  have every := (isBlank_splitOn _).mpr ((isBlank_expandTabs 0 doc).mpr blank)
  have tails : (∀ line ∈ ((expandTabs 0 doc).splitOn 0x0A).tail, line = []) ↔ ∀ line ∈ (doc.splitOn 0x0A).tail, line = [] := by
    have among (lines : List Text) : (∀ line ∈ lines.tail, line = []) ↔ ∀ empty ∈ (lines.map List.isEmpty).tail, empty = true := by
      rw [← List.map_tail,List.forall_mem_map]
      exact forall₂_congr fun line _ => List.isEmpty_iff.symm
    rw [among,among]
    exact iff_of_eq (congrArg (fun l : List Bool => ∀ empty ∈ l.tail, empty = true) same)
  rw [← tails]
  unfold clean
  split
  · rename_i none
    exact absurd none (splitOn_ne_nil _ _)
  · rename_i first rest split
    rw [split,List.forall_mem_cons] at every
    rw [split,(margin?_eq_none rest).mpr every.2,join_trimEmpty_eq_nil,List.forall_mem_cons,List.tail_cons]
    simp [(trimLeft_eq_nil first).mpr every.1]

/-- What is left of a docstring is white space, and not nothing, exactly when the docstring holds nothing but white
    space and a line after its first is not empty. -/
theorem clean_blank (doc : Text) :
    clean doc ≠ [] ∧ (clean doc).IsBlank ↔ doc.IsBlank ∧ ∃ line ∈ (doc.splitOn 0x0A).tail, line ≠ [] := by
  rw [isBlank_clean,and_comm]
  refine and_congr_right fun blank => ?_
  rw [ne_eq,clean_eq_nil blank]
  simp

end Docstring

end ApiDocs
