import ApiDocs.Proofs.Redaction.Shape
import ApiDocs.Proofs.Value.Exact

/-!
What redaction leaves of a document: the names of its objects, and one placeholder for each kind of leaf
(`isShape_of_redactWithin`). Such a shape is written without loss, and it can stand in a document exactly when its names can be
encoded (`IsShape.documented_iff`).
-/
namespace ApiDocs

open Value

/-- A redacted document. Nothing of it comes from what was served but the names. -/
inductive IsShape : Value → Prop
  | null : IsShape .null
  | bool : IsShape (.bool false)
  | number : IsShape (.int 0)
  | str : IsShape (.str [])
  | arr : IsShape (.arr [])
  | obj {members : List (Text × Value)} (distinct : (members.map (·.1)).Nodup) (each : ∀ m ∈ members, IsShape m.2) :
    IsShape (.obj members)

/-! ### Members -/

/-- The members of an object that was redacted were redacted with room for one object less. -/
theorem redactWithin_obj {room : Nat} {members : List (Text × Value)} {shape : Value}
    (run : redactWithin room (.obj members) = .ok shape) :
    ∃ shapes, redactMembers (room - 1) members = .ok shapes ∧ shape = .obj shapes := by
  rw [redactWithin] at run
  split at run
  · cases run
  · obtain ⟨shapes,inner,same⟩ := map_eq_ok run
    exact ⟨shapes,inner,same.symm⟩

theorem redactMembers_cons {room : Nat} {name : Text} {v : Value} {rest shapes : List (Text × Value)}
    (run : redactMembers room ((name,v) :: rest) = .ok shapes) :
    ∃ shape later, redactWithin room v = .ok shape ∧ redactMembers room rest = .ok later ∧ shapes = (name,shape) :: later := by
  rw [redactMembers] at run
  cases first : redactWithin room v with
  | error kind => rw [first] at run; cases run
  | ok shape =>
    rw [first] at run
    obtain ⟨later,more,rfl⟩ := map_eq_ok run
    exact ⟨shape,later,rfl,more,rfl⟩

/-- The names stay, in their order. -/
theorem names_redactMembers {room : Nat} {members shapes : List (Text × Value)}
    (run : redactMembers room members = .ok shapes) :
    shapes.map (·.1) = members.map (·.1) := by
  induction members generalizing shapes with
  | nil => cases run; rfl
  | cons m rest ih =>
    obtain ⟨shape,later,_,more,rfl⟩ := redactMembers_cons run
    simp [ih more]

/-- Each member is the redaction of one of the same name. -/
theorem mem_redactMembers {room : Nat} {members shapes : List (Text × Value)}
    (run : redactMembers room members = .ok shapes) {s : Text × Value} (member : s ∈ shapes) :
    ∃ m ∈ members, m.1 = s.1 ∧ redactWithin room m.2 = .ok s.2 := by
  induction members generalizing shapes with
  | nil => cases run; cases member
  | cons m rest ih =>
    obtain ⟨shape,later,first,more,rfl⟩ := redactMembers_cons run
    rcases List.mem_cons.mp member with rfl | inside
    · exact ⟨m,List.mem_cons_self,rfl,first⟩
    · obtain ⟨other,among,found⟩ := ih more inside
      exact ⟨other,List.mem_cons_of_mem m among,found⟩

/-! ### Shapes -/

/-- A redacted document is a shape. -/
theorem isShape_of_redactWithin {room : Nat} {v shape : Value} (decoded : v.Decoded)
    (run : redactWithin room v = .ok shape) : IsShape shape := by
  induction decoded generalizing shape room with
  | null => cases run; exact .null
  | bool b => cases run; exact .bool
  | int n => cases run; exact .number
  | float x => cases run; exact .number
  | str t => cases run; exact .str
  | arr _ _ => cases run; exact .arr
  | obj distinct _ ih =>
    obtain ⟨shapes,inner,rfl⟩ := redactWithin_obj run
    refine .obj (names_redactMembers inner ▸ distinct) fun s member => ?_
    obtain ⟨m,among,_,found⟩ := mem_redactMembers inner member
    exact ih m among found

/-- No text of a shape is new. -/
theorem mem_texts_of_redactWithin {room : Nat} {v shape : Value} (decoded : v.Decoded)
    (run : redactWithin room v = .ok shape) {t : Text}
    (member : t ∈ shape.texts) : t = [] ∨ t ∈ v.texts := by
  induction decoded generalizing shape room with
  | str s => cases run; exact .inl (List.mem_singleton.mp member)
  | arr _ _ => cases run; cases member
  | obj _ _ ih =>
    obtain ⟨shapes,inner,rfl⟩ := redactWithin_obj run
    obtain ⟨s,among,own⟩ := (mem_texts_obj t shapes).mp member
    obtain ⟨m,source,same,found⟩ := mem_redactMembers inner among
    rcases own with rfl | inside
    · exact .inr ((mem_texts_obj _ _).mpr ⟨m,source,.inl same.symm⟩)
    · exact (ih m source found inside).imp_right fun before => (mem_texts_obj _ _).mpr ⟨m,source,.inr before⟩
  | _ => cases run; cases member

/-- A shape is not nested more deeply than what it is the shape of. -/
theorem nesting_le_of_redactWithin {room : Nat} {v shape : Value} (decoded : v.Decoded)
    (run : redactWithin room v = .ok shape) :
    shape.nesting ≤ v.nesting := by
  induction decoded generalizing shape room with
  | arr _ _ =>
    cases run
    exact Nat.succ_le_succ (Nat.zero_le _)
  | obj _ _ ih =>
    rename_i members _ _
    obtain ⟨shapes,inner,rfl⟩ := redactWithin_obj run
    refine (nesting_obj_le shapes (memberNesting members)).mpr fun s member => ?_
    obtain ⟨m,source,_,found⟩ := mem_redactMembers inner member
    exact (ih m source found).trans ((nesting_obj_le members _).mp (Nat.le_refl _) m source)
  | _ => cases run; exact Nat.zero_le _

theorem IsShape.exact {v : Value} (shape : IsShape v) : v.Exact := by
  induction shape with
  | null => exact .null
  | bool => exact .bool false
  | number => exact .int 0 (isWritableInt_of_lt (by decide))
  | str => exact .str []
  | arr => exact .arr (by simp)
  | obj distinct _ ih => exact .obj distinct ih

/-! ### Shapes in documents -/

/-- What stands in a document as a member has a name that can be encoded. -/
theorem documentedMembers_cons {m : Text × Value} {rest written : List (Text × Value)}
    (run : documentedMembers (m :: rest) = .ok written) :
    Text.IsEncodable m.1 ∧ (∃ w, m.2.documented = .ok w) ∧ ∃ later, documentedMembers rest = .ok later := by
  rw [documentedMembers] at run
  cases named : Utf8.firstSurrogates? m.1 with
  | some fault => rw [named] at run; cases run
  | none =>
    rw [named] at run
    dsimp only at run
    cases first : m.2.documented with
    | error fault => rw [first] at run; cases run
    | ok w =>
      rw [first] at run
      obtain ⟨later,more,_⟩ := map_eq_ok run
      exact ⟨(Utf8.firstSurrogates?_eq_none m.1).mp named,⟨w,rfl⟩,later,more⟩

theorem forall_of_documentedMembers {members written : List (Text × Value)}
    (run : documentedMembers members = .ok written) :
    ∀ m ∈ members, Text.IsEncodable m.1 ∧ ∃ w, m.2.documented = .ok w := by
  induction members generalizing written with
  | nil => simp
  | cons m rest ih =>
    obtain ⟨named,first,later,more⟩ := documentedMembers_cons run
    exact List.forall_mem_cons.mpr ⟨⟨named,first⟩,ih more⟩

/-- A shape stands in a document, and then as it is, exactly when its names can be encoded. -/
theorem IsShape.documented_iff {v : Value} (shape : IsShape v) :
    (∃ w, v.documented = .ok w) ↔ ∀ t ∈ v.texts, t.IsEncodable := by
  refine ⟨?_,fun encodable => ⟨v,shape.exact.documented encodable⟩⟩
  induction shape with
  | str =>
    intro _ t member
    rw [List.mem_singleton.mp member]
    exact fun _ inside => absurd inside List.not_mem_nil
  | obj _ _ ih =>
    rintro ⟨w,run⟩
    obtain ⟨written,inner,_⟩ := map_eq_ok run
    rw [texts_obj]
    intro m member
    obtain ⟨named,own⟩ := forall_of_documentedMembers inner m member
    exact ⟨named,ih m member own⟩
  | _ => exact fun _ t member => absurd member List.not_mem_nil

end ApiDocs
