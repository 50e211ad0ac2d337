import ApiDocs.Yaml.Writer
import ApiDocs.Proofs.Text.Printable
import ApiDocs.Proofs.Value.Exact

/-!
Which YAML texts can be encoded. The writer puts down only what stands in a text, and ASCII of its own, so a value whose
texts can be encoded is written as a text that can be (`isEncodable_text`).
-/
namespace ApiDocs.Yaml

open Text

/-! ### The cursor -/

/-- What was written so far can be encoded. -/
def Cursor.IsEncodable (c : Cursor) : Prop := Text.IsEncodable c.written

namespace Cursor.IsEncodable

variable {c : Cursor}

theorem put (before : c.IsEncodable) {t : Text} (own : t.IsEncodable) : (c.put t).IsEncodable :=
  (isEncodable_append _ _).mpr ⟨(isEncodable_reverse t).mpr own,before⟩

theorem breakLine (before : c.IsEncodable) {mark : Nat} (own : isSurrogate mark = false) :
    (c.breakLine mark).IsEncodable :=
  (isEncodable_cons _ _).mpr ⟨own,before⟩

theorem inText (before : c.IsEncodable) : c.inText.IsEncodable := before

theorem blanks (before : c.IsEncodable) (n : Nat) : (c.put (repeated n 0x20)).IsEncodable := by
  refine before.put fun x member => ?_
  rw [List.eq_of_mem_replicate member]
  rfl

theorem indentTo (before : c.IsEncodable) (indent : Nat) : (c.indentTo indent).IsEncodable := by
  have settle : ∀ d : Cursor, d.IsEncodable → Cursor.IsEncodable
      (if d.column < indent then { d.put (repeated (indent - d.column) 0x20) with afterBlank := true } else d) := by
    intro d own
    split
    · exact own.blanks _
    · exact own
  unfold Cursor.indentTo
  dsimp only
  split
  · exact settle _ (before.breakLine rfl)
  · exact settle _ before

theorem indicator (before : c.IsEncodable) {t : Text} (own : t.IsEncodable) (spaced : Bool) :
    (c.indicator t spaced).IsEncodable := by
  unfold Cursor.indicator
  dsimp only
  split
  · exact before.put own
  · exact before.put ((isEncodable_cons _ _).mpr ⟨rfl,own⟩)

theorem entry (before : c.IsEncodable) {t : Text} (own : t.IsEncodable) : (c.entry t).IsEncodable :=
  before.indicator own true

end Cursor.IsEncodable

/-! ### Runs -/

/-- The code points of a run can be encoded. -/
def Run.IsEncodable : Run → Prop
  | .blanks _ => True
  | .breaks marks => marks.IsEncodable
  | .word t => t.IsEncodable

theorem Run.isEncodable_cons {x : Nat} (own : isSurrogate x = false) {runs : List Run}
    (later : ∀ run ∈ runs, run.IsEncodable) : ∀ run ∈ Run.cons x runs, run.IsEncodable := by
  have single : Text.IsEncodable [x] := (Text.isEncodable_cons _ _).mpr ⟨own,isEncodable_nil⟩
  cases runs with
  | nil =>
    unfold Run.cons
    split
    · simp [Run.IsEncodable]
    · split <;> simpa [Run.IsEncodable] using own
  | cons first rest =>
    obtain ⟨head,tail⟩ := List.forall_mem_cons.mp later
    unfold Run.cons
    split
    · split <;> simp_all [Run.IsEncodable]
    · split <;> (split <;> simp_all [Run.IsEncodable])

theorem isEncodable_runs {t : Text} (own : t.IsEncodable) : ∀ run ∈ runs t, run.IsEncodable := by
  induction t with
  | nil => simp [runs]
  | cons x rest ih =>
    obtain ⟨first,later⟩ := (Text.isEncodable_cons x rest).mp own
    exact Run.isEncodable_cons first (ih later)

/-! ### Texts -/

theorem isEncodable_writePlain {c : Cursor} (before : c.IsEncodable) (indent : Nat) (fold : Bool) {t : Text}
    (own : t.IsEncodable) : (writePlain c indent fold t).IsEncodable := by
  have start : ((if c.afterBlank then c else c.put [0x20]).inText).IsEncodable := by
    split
    · exact before.inText
    · exact (before.blanks 1).inText
  unfold writePlain
  dsimp only
  generalize (if c.afterBlank then c else c.put [0x20]).inText = d at start
  have each := isEncodable_runs own
  generalize runs t = parts at each
  induction parts generalizing d with
  | nil => exact start
  | cons run rest ih =>
    obtain ⟨first,later⟩ := List.forall_mem_cons.mp each
    refine ih _ ?_ later
    cases run with
    | word t => exact start.put first
    | blanks n =>
      dsimp only
      split
      · exact (start.indentTo indent).inText
      · exact start.blanks n
    | breaks marks => exact start

theorem isEncodable_breakLines {c : Cursor} (before : c.IsEncodable) {marks : Text} (own : marks.IsEncodable) :
    (marks.foldl Cursor.breakLine c).IsEncodable := by
  induction marks generalizing c with
  | nil => exact before
  | cons mark rest ih =>
    obtain ⟨first,later⟩ := (Text.isEncodable_cons mark rest).mp own
    exact ih (before.breakLine first) later

theorem isEncodable_writeSingleRuns (indent : Nat) (fold first : Bool) {c : Cursor} (before : c.IsEncodable)
    {parts : List Run} (each : ∀ run ∈ parts, run.IsEncodable) :
    (writeSingleRuns indent fold first c parts).IsEncodable := by
  induction parts generalizing c first with
  | nil => exact before
  | cons run rest ih =>
    obtain ⟨own,later⟩ := List.forall_mem_cons.mp each
    rw [writeSingleRuns.eq_def]
    refine ih false ?_ later
    cases run with
    | word t =>
      refine before.put (List.forall_mem_flatMap.mpr fun x member => ?_)
      split
      · decide
      · exact List.forall_mem_singleton.mpr (own x member)
    | blanks n =>
      dsimp only
      split
      · exact before.indentTo indent
      · exact before.blanks n
    | breaks marks =>
      dsimp only
      refine (isEncodable_breakLines ?_ own).indentTo indent
      split
      · exact before.breakLine rfl
      · exact before

theorem isEncodable_writeSingle {c : Cursor} (before : c.IsEncodable) (indent : Nat) (fold : Bool) {t : Text}
    (own : t.IsEncodable) : (writeSingle c indent fold t).IsEncodable := by
  have quote : Text.IsEncodable [0x27] := by decide
  exact (isEncodable_writeSingleRuns indent fold true (before.indicator quote true) (isEncodable_runs own)).indicator
    quote false

/-- An escape is ASCII. -/
theorem isEncodable_escape {x : Nat} {e : Text} (escaped : escape? x = some e) : e.IsEncodable := by
  have hex (letter width : Nat) (small : isSurrogate letter = false) :
      Text.IsEncodable (0x5C :: letter :: Text.hex true width x) :=
    (Text.isEncodable_cons _ _).mpr ⟨rfl,(Text.isEncodable_cons _ _).mpr
      ⟨small,(isPrintable_hex true width x).isAscii.isEncodable⟩⟩
  unfold escape? at escaped
  dsimp only at escaped
  split at escaped
  · cases escaped
  · split at escaped
    · rename_i letter found
      cases escaped
      obtain ⟨before,after,split,_⟩ := List.lookup_eq_some_iff.mp found
      have letters : ∀ pair ∈ escapeLetters, isSurrogate pair.2 = false := by decide
      have own : isSurrogate letter = false := letters (x,letter) (by rw [split]; simp)
      exact (Text.isEncodable_cons _ _).mpr ⟨rfl,(Text.isEncodable_cons _ _).mpr ⟨own,isEncodable_nil⟩⟩
    · split at escaped
      · cases escaped
        exact hex 0x78 2 rfl
      · split at escaped
        · cases escaped
          exact hex 0x75 4 rfl
        · cases escaped
          exact hex 0x55 8 rfl

theorem isEncodable_foldDouble {c : Cursor} (before : c.IsEncodable) (indent : Nat) (next : Option Nat) :
    (foldDouble c indent next).IsEncodable := by
  have backslash : Text.IsEncodable [0x5C] := by decide
  have folded := ((before.put backslash).indentTo indent).inText
  unfold foldDouble
  dsimp only
  split
  · exact folded.put backslash
  · exact folded

theorem isEncodable_writeDoubleFrom (indent : Nat) (fold first : Bool) {c : Cursor} (before : c.IsEncodable)
    {held : Text} (kept : held.IsEncodable) {t : Text} (own : t.IsEncodable) :
    (writeDoubleFrom indent fold first c held t).IsEncodable := by
  induction t generalizing first c held with
  | nil => exact before.put ((isEncodable_reverse held).mpr kept)
  | cons x rest ih =>
    obtain ⟨here,later⟩ := (Text.isEncodable_cons x rest).mp own
    have caught := before.put ((isEncodable_reverse held).mpr kept)
    rw [writeDoubleFrom]
    dsimp only
    split
    · rename_i e escaped
      have written := caught.put (isEncodable_escape escaped)
      refine ih false ?_ isEncodable_nil later
      split
      · exact isEncodable_foldDouble written indent _
      · exact written
    · split
      · exact ih false (isEncodable_foldDouble caught indent _) ((Text.isEncodable_cons _ _).mpr ⟨here,isEncodable_nil⟩) later
      · exact ih false before ((Text.isEncodable_cons _ _).mpr ⟨here,kept⟩) later

theorem isEncodable_writeDouble {c : Cursor} (before : c.IsEncodable) (indent : Nat) (fold : Bool) {t : Text}
    (own : t.IsEncodable) : (writeDouble c indent fold t).IsEncodable := by
  have quote : Text.IsEncodable [0x22] := by decide
  exact (isEncodable_writeDoubleFrom indent fold true (before.indicator quote true) isEncodable_nil own).indicator
    quote false

/-- A text is written in each style as one that can be encoded. -/
theorem isEncodable_writeText {c : Cursor} (before : c.IsEncodable) (indent : Nat) (asKey : Bool) {t : Text}
    (own : t.IsEncodable) : (writeText c indent asKey t).IsEncodable := by
  unfold writeText
  split
  · exact isEncodable_writePlain before indent _ own
  · exact isEncodable_writeSingle before indent _ own
  · exact isEncodable_writeDouble before indent _ own

/-! ### Values -/

/-- The value is put down behind whatever can be encoded. -/
def Writes (v : Value) : Prop :=
  ∀ outer asMember {c : Cursor}, c.IsEncodable → (writeNode outer asMember c v).IsEncodable

theorem isEncodable_writeItems {items : List Value} (each : ∀ v ∈ items, Writes v) (indent : Nat) {c : Cursor}
    (before : c.IsEncodable) : (writeItems indent c items).IsEncodable := by
  induction items generalizing c with
  | nil => exact before
  | cons v rest ih =>
    obtain ⟨first,later⟩ := List.forall_mem_cons.mp each
    rw [writeItems]
    exact ih later (first _ _ ((before.indentTo indent).entry (by decide)))

theorem isEncodable_writeMembers {members : List (Text × Value)}
    (each : ∀ m ∈ members, Text.IsEncodable m.1 ∧ Writes m.2) (indent : Nat) {c : Cursor} (before : c.IsEncodable) :
    (writeMembers indent c members).IsEncodable := by
  induction members generalizing c with
  | nil => exact before
  | cons m rest ih =>
    obtain ⟨⟨named,first⟩,later⟩ := List.forall_mem_cons.mp each
    have start := before.indentTo indent
    rw [writeMembers]
    refine ih later (first _ _ ?_)
    split
    · exact (isEncodable_writeText start _ true named).indicator (by decide) false
    · exact ((isEncodable_writeText (start.entry (by decide)) _ false named).indentTo indent).entry (by decide)

theorem isEncodable_brackets {c : Cursor} (before : c.IsEncodable) {opening closing : Text}
    (opens : opening.IsEncodable) (closes : closing.IsEncodable) :
    (Cursor.indicator { c.indicator opening true with afterBlank := true } closing false).IsEncodable :=
  Cursor.IsEncodable.indicator (c := { c.indicator opening true with afterBlank := true }) (before.indicator opens true)
    closes false

/-- An exact value whose texts can be encoded is written so. -/
theorem writes {v : Value} (exact : v.Exact) (encodable : ∀ t ∈ v.texts, t.IsEncodable) : Writes v := by
  induction exact with
  | null => exact fun _ _ _ before => isEncodable_writePlain before _ true (by decide : Text.IsEncodable (atom .null))
  | bool b =>
    have own : Text.IsEncodable (atom (.bool b)) := by cases b <;> decide
    exact fun _ _ _ before => isEncodable_writePlain before _ true own
  | int n _ =>
    have own : Text.IsEncodable (atom (.int n)) := (isPrintable_ofInt n).isAscii.isEncodable
    exact fun _ _ _ before => isEncodable_writePlain before _ true own
  | str t =>
    exact fun outer _ _ before => isEncodable_writeText before _ _ (encodable t (List.mem_singleton_self t))
  | arr _ ih =>
    intro outer asMember c before
    have each := fun v member => ih v member (Value.texts_arr.mp encodable v member)
    rw [writeNode]
    split
    · exact isEncodable_brackets before (by decide) (by decide)
    · exact isEncodable_writeItems each _ before
  | obj _ _ ih =>
    intro outer asMember c before
    have each := fun m member => (Value.texts_obj.mp encodable m member).imp_right (ih m member)
    rw [writeNode]
    split
    · exact isEncodable_brackets before (by decide) (by decide)
    · exact isEncodable_writeMembers each _ before

/-- The document of an exact value whose texts can be encoded can be encoded. -/
theorem isEncodable_text {v : Value} (exact : v.Exact) (encodable : ∀ t ∈ v.texts, t.IsEncodable) :
    (text v).IsEncodable := by
  have start : Cursor.IsEncodable {} := isEncodable_nil
  exact (isEncodable_reverse _).mpr ((writes exact encodable none false start).indentTo 0)

end ApiDocs.Yaml
