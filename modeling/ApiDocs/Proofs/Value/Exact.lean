import ApiDocs.Render
import ApiDocs.Proofs.Text.Utf8

/-!
Values that are written without loss. A value is exact when it holds no fraction and nothing foreign, its integers can be
written, and no name stands twice in an object of it: what redaction leaves is such a value, and so is the document of an
endpoint with such samples.
-/
namespace ApiDocs

namespace Value

mutual

/-- The texts in a value: its strings and the names of its members. -/
def texts : Value → List Text
  | .str t => [t]
  | .arr items => itemTexts items
  | .obj members => memberTexts members
  | _ => []

/-- The texts in items. -/
def itemTexts : List Value → List Text
  | [] => []
  | v :: rest => texts v ++ itemTexts rest

/-- The texts in members. -/
def memberTexts : List (Text × Value) → List Text
  | [] => []
  | (name,v) :: rest => name :: texts v ++ memberTexts rest

end

theorem mem_texts_arr (t : Text) (items : List Value) : t ∈ (arr items).texts ↔ ∃ v ∈ items, t ∈ v.texts := by
  show t ∈ itemTexts items ↔ _
  induction items with
  | nil => simp [itemTexts]
  | cons v rest ih => simp [itemTexts,ih]

theorem mem_texts_obj (t : Text) (members : List (Text × Value)) :
    t ∈ (obj members).texts ↔ ∃ m ∈ members, t = m.1 ∨ t ∈ m.2.texts := by
  show t ∈ memberTexts members ↔ _
  induction members with
  | nil => simp [memberTexts]
  | cons m rest ih => simp [memberTexts,ih,or_assoc]

/-- What holds of all texts of an array holds of those of its items. -/
theorem texts_arr {P : Text → Prop} {items : List Value} :
    (∀ t ∈ (arr items).texts, P t) ↔ ∀ v ∈ items, ∀ t ∈ v.texts, P t := by
  simp only [mem_texts_arr]
  exact ⟨fun all v member t inside => all t ⟨v,member,inside⟩,fun each t ⟨v,member,inside⟩ => each v member t inside⟩

/-- What holds of all texts of an object holds of its names and of the texts of its members. -/
theorem texts_obj {P : Text → Prop} {members : List (Text × Value)} :
    (∀ t ∈ (obj members).texts, P t) ↔ ∀ m ∈ members, P m.1 ∧ ∀ t ∈ m.2.texts, P t := by
  simp only [mem_texts_obj]
  constructor
  · exact fun all m member => ⟨all m.1 ⟨m,member,.inl rfl⟩,fun t inside => all t ⟨m,member,.inr inside⟩⟩
  · rintro each t ⟨m,member,rfl | inside⟩
    · exact (each m member).1
    · exact (each m member).2 t inside

/-! ### Nesting -/

mutual

/-- The number of arrays and objects around the innermost values. -/
def nesting : Value → Nat
  | .arr items => itemNesting items + 1
  | .obj members => memberNesting members + 1
  | _ => 0

/-- The greatest nesting of items. -/
def itemNesting : List Value → Nat
  | [] => 0
  | v :: rest => max (nesting v) (itemNesting rest)

/-- The greatest nesting of members. -/
def memberNesting : List (Text × Value) → Nat
  | [] => 0
  | (_,v) :: rest => max (nesting v) (memberNesting rest)

end

theorem nesting_arr_le (items : List Value) (n : Nat) :
    (arr items).nesting ≤ n + 1 ↔ ∀ v ∈ items, v.nesting ≤ n := by
  show itemNesting items + 1 ≤ n + 1 ↔ _
  rw [Nat.add_le_add_iff_right]
  induction items with
  | nil => simp [itemNesting]
  | cons v rest ih => rw [itemNesting,Nat.max_le,ih,List.forall_mem_cons]

theorem nesting_obj_le (members : List (Text × Value)) (n : Nat) :
    (obj members).nesting ≤ n + 1 ↔ ∀ m ∈ members, m.2.nesting ≤ n := by
  show memberNesting members + 1 ≤ n + 1 ↔ _
  rw [Nat.add_le_add_iff_right]
  induction members with
  | nil => simp [memberNesting]
  | cons m rest ih => rw [memberNesting,Nat.max_le,ih,List.forall_mem_cons]

/-! ### Exact values -/

/-- A value that is written without loss. -/
inductive Exact : Value → Prop
  | null : Exact .null
  | bool (b : Bool) : Exact (.bool b)
  | int (n : Int) (writable : isWritableInt n = true) : Exact (.int n)
  | str (t : Text) : Exact (.str t)
  | arr {items : List Value} (each : ∀ v ∈ items, Exact v) : Exact (.arr items)
  | obj {members : List (Text × Value)} (distinct : (members.map (·.1)).Nodup) (each : ∀ m ∈ members, Exact m.2) :
    Exact (.obj members)

/-! ### Integers -/

/-- An integer of at most three digits can be written. -/
theorem isWritableInt_of_lt {n : Int} (small : n.natAbs < 1000) : isWritableInt n = true := by
  have bound : ∀ digits, 3 ≤ digits → n.natAbs < Nat.pow 10 digits := fun digits enough =>
    Nat.lt_of_lt_of_le small (Nat.pow_le_pow_right (by decide : 0 < 10) enough)
  exact decide_eq_true (bound maxWrittenDigits (by decide))

theorem intsWritableItems_iff (items : List Value) :
    intsWritableItems items = true ↔ ∀ v ∈ items, v.intsWritable = true := by
  induction items with
  | nil => simp [intsWritableItems]
  | cons v rest ih => simp [intsWritableItems,ih]

theorem intsWritableMembers_iff (members : List (Text × Value)) :
    intsWritableMembers members = true ↔ ∀ m ∈ members, m.2.intsWritable = true := by
  induction members with
  | nil => simp [intsWritableMembers]
  | cons m rest ih => simp [intsWritableMembers,ih]

theorem Exact.intsWritable {v : Value} (exact : v.Exact) : v.intsWritable = true := by
  induction exact with
  | int n writable => exact writable
  | arr _ ih => exact (intsWritableItems_iff _).mpr ih
  | obj _ _ ih => exact (intsWritableMembers_iff _).mpr ih
  | _ => rfl

/-! ### Samples in documents -/

theorem documentedItems_eq_self {items : List Value} (each : ∀ v ∈ items, v.documented = .ok v) :
    documentedItems items = .ok items := by
  induction items with
  | nil => rfl
  | cons v rest ih =>
    obtain ⟨first,later⟩ := List.forall_mem_cons.mp each
    rw [documentedItems,first]
    dsimp only
    rw [ih later]
    rfl

theorem documentedMembers_eq_self {members : List (Text × Value)}
    (each : ∀ m ∈ members, Text.IsEncodable m.1 ∧ m.2.documented = .ok m.2) :
    documentedMembers members = .ok members := by
  induction members with
  | nil => rfl
  | cons m rest ih =>
    obtain ⟨⟨named,first⟩,later⟩ := List.forall_mem_cons.mp each
    rw [documentedMembers,(Utf8.firstSurrogates?_eq_none m.1).mpr named,first]
    dsimp only
    rw [ih later]
    rfl

/-- An exact value whose texts can be encoded stands in a document as it is. -/
theorem Exact.documented {v : Value} (exact : v.Exact) (encodable : ∀ t ∈ v.texts, t.IsEncodable) :
    v.documented = .ok v := by
  induction exact with
  | arr _ ih =>
    have items := documentedItems_eq_self fun v member => ih v member (texts_arr.mp encodable v member)
    rw [Value.documented,items]
    rfl
  | obj _ _ ih =>
    have members := documentedMembers_eq_self fun m member =>
      ⟨(texts_obj.mp encodable m member).1,ih m member (texts_obj.mp encodable m member).2⟩
    rw [Value.documented,members]
    rfl
  | _ => rfl

end Value

end ApiDocs
