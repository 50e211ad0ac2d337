import ApiDocs.Value

/-!
The structural equality of values is their equality, so whether two values are equal can be decided.
-/
namespace ApiDocs.Value

mutual

theorem beq_iff : ∀ v w : Value, v.beq w = true ↔ v = w
  | .null,w => by cases w <;> simp [beq]
  | .bool b,w => by cases w <;> simp [beq]
  | .int n,w => by cases w <;> simp [beq]
  | .float x,w => by cases w <;> simp [beq]
  | .str t,w => by cases w <;> simp [beq]
  | .arr items,w => by cases w <;> simp [beq,beqItems_iff items]
  | .obj members,w => by cases w <;> simp [beq,beqMembers_iff members]
  | .foreign kind,w => by cases w <;> simp [beq]

theorem beqItems_iff : ∀ vs ws : List Value, beqItems vs ws = true ↔ vs = ws
  | [],ws => by cases ws <;> simp [beqItems]
  | v :: vs,[] => by simp [beqItems]
  | v :: vs,w :: ws => by simp [beqItems,beq_iff v w,beqItems_iff vs ws]

theorem beqMembers_iff : ∀ vs ws : List (Text × Value), beqMembers vs ws = true ↔ vs = ws
  | [],ws => by cases ws <;> simp [beqMembers]
  | (j,v) :: vs,[] => by simp [beqMembers]
  | (j,v) :: vs,(k,w) :: ws => by simp [beqMembers,beq_iff v w,beqMembers_iff vs ws,and_assoc]

end

instance : DecidableEq Value := fun v w => decidable_of_iff (v.beq w = true) (beq_iff v w)

end ApiDocs.Value
