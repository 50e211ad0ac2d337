import ApiDocs.Console.Wrap
import ApiDocs.Proofs.Console.Cell
import ApiDocs.Proofs.Text.Words

/-!
Texts in the lines of a console. Nothing but blanks gets into the lines that was not in the text, and neither tabs nor line
ends are in them (`countP_lines`). A line that fits stays as it is, unless blanks at its end are dropped because it has more
code points than the console has cells (`lines_eq_singleton_iff`).
-/
namespace ApiDocs

theorem Text.flatten_splitOn (sep : Nat) (t : Text) : (splitOn sep t).flatten = t.filter (· ≠ sep) := by
  induction t with
  | nil => rfl
  | cons c rest ih =>
    by_cases same : c = sep
    · simp [splitOn,same,ih]
    · obtain ⟨part,parts,before,after⟩ := splitOn_cons same rest
      rw [before] at ih
      rw [after,List.filter_cons_of_pos (by simpa using same),← ih]
      rfl

theorem Text.countP_splitOn (p : Nat → Bool) (sep : Nat) (t : Text) :
    (splitOn sep t).flatten.countP p = t.countP fun c => p c && c ≠ sep := by
  rw [flatten_splitOn,List.countP_filter]

namespace Console

/-! ### Tabs -/

theorem countP_expandTabs {p : Nat → Bool} (blank : p 0x20 = false) (line : Text) :
    (expandTabs line).countP p = line.countP fun c => p c && c ≠ 9 := by
  have step (column : Nat) (parts : List Text) : (expandTabsFrom column parts).countP p = parts.flatten.countP p := by
    fun_induction expandTabsFrom column parts with
    | case1 => rfl
    | case2 => simp
    | case3 column part rest _ used gap ih => simp [ih,Text.repeated,blank,List.countP_replicate]
  rw [expandTabs,step,Text.countP_splitOn]

theorem expandTabs_eq_self {line : Text} (noTab : 9 ∉ line) : expandTabs line = line := by
  rw [expandTabs,Text.splitOn_of_not_mem noTab]
  rfl

/-! ### Words -/

/-- The chunks of a line, one after the other, are the line, and every one but the last ends with a blank. -/
theorem chunksFrom_spec (chunk : Text) (hasWord isOver : Bool) (behind : isOver = true → ∃ c ∈ chunk.head?, isBlank c = true)
    (t : Text) :
    (chunksFrom chunk hasWord isOver t).flatten = chunk.reverse ++ t ∧
      ∀ part ∈ (chunksFrom chunk hasWord isOver t).dropLast, ∃ c ∈ part.getLast?, isBlank c = true := by
  induction t generalizing chunk hasWord isOver with
  | nil =>
    rw [chunksFrom]
    split <;> simp_all
  | cons c rest ih =>
    rw [chunksFrom]
    split
    · rename_i blank
      obtain ⟨whole,ends⟩ := ih (c :: chunk) hasWord hasWord fun _ => ⟨c,rfl,blank⟩
      exact ⟨by simpa using whole,ends⟩
    · split
      · rename_i isBehind
        obtain ⟨whole,ends⟩ := ih [c] true false (by simp)
        refine ⟨by simp [whole],?_⟩
        have filled : chunksFrom [c] true false rest ≠ [] := fun none => by simp [none] at whole
        rw [List.dropLast_cons_of_ne_nil filled,List.forall_mem_cons]
        exact ⟨by simpa using behind isBehind,ends⟩
      · obtain ⟨whole,ends⟩ := ih (c :: chunk) true false (by simp)
        exact ⟨by simpa using whole,ends⟩

theorem chunks_spec (line : Text) :
    (chunks line).flatten = line ∧ ∀ part ∈ (chunks line).dropLast, ∃ c ∈ part.getLast?, isBlank c = true :=
  chunksFrom_spec [] false false (by simp) line

/-! ### Breaking -/

namespace Filling

theorem flatten_next (f : Filling) (t : Text) : (f.next t).lines.flatten = f.lines.flatten ++ t := by
  unfold next
  split
  · rename_i fresh
    simp only [isFresh,Bool.and_eq_true,List.isEmpty_iff] at fresh
    simp [lines,fresh]
  · simp [lines]

theorem flatten_foldl_next (pieces : List Text) (f : Filling) :
    (pieces.foldl next f).lines.flatten = f.lines.flatten ++ pieces.flatten := by
  induction pieces generalizing f with
  | nil => simp
  | cons piece rest ih => simp [ih,flatten_next]

/-- What is put on the lines comes from the word. -/
theorem flatten_add (width : Nat) (overflow : Overflow) (f : Filling) (word : Text) :
    List.Sublist (f.add width overflow word).lines.flatten (f.lines.flatten ++ word) := by
  unfold add
  dsimp only
  split
  · simp [lines]
  · split
    · rw [flatten_next]
    · split
      · rw [flatten_foldl_next]
        exact (flatten_pieces width word).append_left _
      · rw [flatten_next]

/-- Words that all fit in the line that is being filled are put on it. -/
theorem foldl_add_of_fits {width : Nat} (overflow : Overflow) {words : List Text}
    (ends : ∀ word ∈ words.dropLast, ∃ c ∈ word.getLast?, isBlank c = true) {f : Filling} (first : f.full = [])
    (fits : f.used + Console.width words.flatten ≤ width) :
    (words.foldl (add width overflow) f).lines = [f.line ++ words.flatten] := by
  induction words generalizing f with
  | nil => simp [lines,first]
  | cons word rest ih =>
    have trimmed : Console.width word.trimRight ≤ Console.width word := by
      have split := word.trimRight_append
      exact (width_append_le _ _).trans_eq (congrArg Console.width split)
    have both : Console.width word + Console.width rest.flatten ≤ Console.width (word :: rest).flatten := by
      cases rest with
      | nil => simp [Console.width,widthFrom]
      | cons second more =>
        obtain ⟨c,last,blank⟩ := ends word (by simp)
        obtain ⟨front,rfl⟩ := List.getLast?_eq_some_iff.mp last
        simpa using width_append_blank blank front (second :: more).flatten
    have room : Console.width word.trimRight + f.used ≤ width := by omega
    have later : ∀ word ∈ rest.dropLast, ∃ c ∈ word.getLast?, isBlank c = true := by
      cases rest with
      | nil => simp
      | cons second more => exact fun word member => ends word (List.mem_cons_of_mem _ member)
    have taken : f.add width overflow word = { f with line := f.line ++ word, used := f.used + Console.width word } := by
      simp only [add,room,if_true]
    have next := ih later (f := { f with line := f.line ++ word, used := f.used + Console.width word }) first
      (by show f.used + Console.width word + Console.width rest.flatten ≤ width; omega)
    rw [List.foldl_cons,taken,next]
    simp

end Filling

theorem flatten_broken (width : Nat) (overflow : Overflow) (line : Text) :
    List.Sublist (broken width overflow line).flatten line := by
  have step (words : List Text) (f : Filling) :
      List.Sublist (words.foldl (Filling.add width overflow) f).lines.flatten (f.lines.flatten ++ words.flatten) := by
    induction words generalizing f with
    | nil => simp
    | cons word rest ih =>
      refine (ih _).trans ?_
      simpa using (f.flatten_add width overflow word).append_right rest.flatten
  have whole := step (chunks line) {}
  rw [(chunks_spec line).1] at whole
  exact whole

/-- A line that fits is not broken. -/
theorem broken_of_fits {width : Nat} (overflow : Overflow) {line : Text} (fits : Console.width line ≤ width) :
    broken width overflow line = [line] := by
  obtain ⟨whole,ends⟩ := chunks_spec line
  have room : ({} : Filling).used + Console.width (chunks line).flatten ≤ width := by
    rw [whole]
    simpa using fits
  have one := Filling.foldl_add_of_fits overflow ends rfl room
  rw [whole] at one
  exact one

/-! ### Lines of a console -/

/-- The lines of a text on a console. -/
def lines (width : Nat) (t : Text) : List Text := (Layout.mk width .fold true false).lines t

/-- No blanks are dropped at the end of the line: it has no more code points than the console has cells, or it does not end
    with a blank. -/
def KeepsEnd (width : Nat) (line : Text) : Prop := line.length ≤ width ∨ ∀ c ∈ line.getLast?, isBlank c = false

instance (width : Nat) (line : Text) : Decidable (KeepsEnd width line) := inferInstanceAs (Decidable (_ ∨ _))

theorem dropExcessBlanks_sublist (width : Nat) (line : Text) : List.Sublist (dropExcessBlanks width line) line :=
  List.take_sublist _ _

theorem dropExcessBlanks_eq_self (width : Nat) (line : Text) : dropExcessBlanks width line = line ↔ KeepsEnd width line := by
  have none : (line.reverse.takeWhile isBlank).length = 0 ↔ ∀ c ∈ line.getLast?, isBlank c = false := by
    rw [← List.head?_reverse]
    cases line.reverse with
    | nil => simp
    | cons c rest => cases blank : isBlank c <;> simp [blank]
  unfold dropExcessBlanks KeepsEnd
  dsimp only
  have few : (line.reverse.takeWhile isBlank).length ≤ line.length := by
    simpa using (List.takeWhile_sublist isBlank (l := line.reverse)).length_le
  have whole (n : Nat) : line.take n = line ↔ line.length ≤ n := by
    refine ⟨fun same => ?_,List.take_of_length_le⟩
    rw [← same]
    exact List.length_take_le _ _
  rw [whole,← none]
  omega

theorem lines_of_solid {width : Nat} {line : Text} (noTab : 9 ∉ line) (noFeed : 10 ∉ line)
    (fits : Console.width line ≤ width) : lines width line = [dropExcessBlanks width line] := by
  have short : Console.width (dropExcessBlanks width line) ≤ width := by
    refine Nat.le_trans ?_ fits
    have split := List.take_append_drop (line.length - min (line.reverse.takeWhile isBlank).length (line.length - width)) line
    exact (width_append_le _ _).trans_eq (congrArg Console.width split)
  simp [lines,Layout.lines,Layout.ofLine,Text.splitOn_of_not_mem noFeed,expandTabs_eq_self noTab,broken_of_fits .fold fits,
    cut,short]

/-- A line that fits is printed as it is unless blanks are dropped at its end. -/
theorem lines_eq_singleton_iff {width : Nat} {line : Text} (noTab : 9 ∉ line) (noFeed : 10 ∉ line)
    (fits : Console.width line ≤ width) : lines width line = [line] ↔ KeepsEnd width line := by
  rw [lines_of_solid noTab noFeed fits,List.singleton_inj,dropExcessBlanks_eq_self]

/-- A line of printable ASCII is printed as it is if it has no more code points than the console has cells. -/
theorem lines_of_ascii {width : Nat} {line : Text} (ascii : ∀ c ∈ line, 0x20 ≤ c ∧ c ≤ 0x7E) (short : line.length ≤ width) :
    lines width line = [line] := by
  have noTab : 9 ∉ line := fun member => absurd (ascii 9 member).1 (by decide)
  have noFeed : 10 ∉ line := fun member => absurd (ascii 10 member).1 (by decide)
  exact (lines_eq_singleton_iff noTab noFeed ((width_of_ascii ascii).trans_le short)).mpr (.inl short)

/-- What is in the lines comes from the text, but for blanks; and neither tabs nor line ends are in them. -/
theorem countP_lines {p : Nat → Bool} (blank : p 0x20 = false) (width : Nat) (t : Text) :
    (lines width t).flatten.countP p ≤ t.countP fun c => p c && c ≠ 9 && c ≠ 10 := by
  have one (line : Text) : (cut width .fold (dropExcessBlanks width line)).countP p ≤ line.countP p := by
    refine Nat.le_trans ?_ (dropExcessBlanks_sublist width line).countP_le
    unfold cut
    split
    · exact Nat.le_refl _
    · exact countP_fit blank _ _
  have each (parts : List Text) :
      (parts.map fun line => cut width .fold (dropExcessBlanks width line)).flatten.countP p ≤ parts.flatten.countP p := by
    induction parts with
    | nil => exact Nat.le_refl _
    | cons line rest ih =>
      simp only [List.map_cons,List.flatten_cons,List.countP_append]
      exact Nat.add_le_add (one line) ih
  have line (line : Text) : ((Layout.mk width .fold true false).ofLine line).flatten.countP p ≤
      line.countP fun c => p c && c ≠ 9 := by
    rw [← countP_expandTabs blank]
    exact (each _).trans (flatten_broken width .fold (expandTabs line)).countP_le
  have all (parts : List Text) : (parts.flatMap (Layout.mk width .fold true false).ofLine).flatten.countP p ≤
      parts.flatten.countP fun c => p c && c ≠ 9 := by
    induction parts with
    | nil => exact Nat.le_refl _
    | cons part rest ih =>
      simp only [List.flatMap_cons,List.flatten_append,List.flatten_cons,List.countP_append]
      exact Nat.add_le_add (line part) ih
  exact (all _).trans_eq (Text.countP_splitOn _ 10 t)

/-- Neither tabs nor line ends are in the lines. -/
theorem not_mem_lines {width : Nat} {t line : Text} (member : line ∈ lines width t) : 9 ∉ line ∧ 10 ∉ line := by
  have none {c : Nat} (other : c = 9 ∨ c = 10) : c ∉ line := by
    intro inside
    have count := countP_lines (p := (· == c)) (by rcases other with rfl | rfl <;> rfl) width t
    have zero : t.countP (fun x => x == c && x ≠ 9 && x ≠ 10) = 0 := by
      rw [List.countP_eq_zero]
      intro x _
      rcases other with rfl | rfl
      all_goals simp +contextual
    rw [zero,Nat.le_zero,List.countP_eq_zero] at count
    exact count c (List.mem_flatten.mpr ⟨line,member,inside⟩) (beq_self_eq_true c)
  exact ⟨none (.inl rfl),none (.inr rfl)⟩

end Console

end ApiDocs
