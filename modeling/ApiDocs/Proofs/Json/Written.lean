import ApiDocs.Proofs.Text.Printable
import ApiDocs.Proofs.Value.Exact

/-!
What a written JSON text consists of. Whatever the texts in an exact value are, it is written in lines of printable ASCII
(`isPrintable_prettyAt`): everything else in a string is escaped.
-/
namespace ApiDocs

namespace Json
open Text

theorem isPrintable_unitEscape (unit : Nat) : (unitEscape unit).IsPrintable := by
  rw [unitEscape,isPrintable_cons,isPrintable_cons]
  exact ⟨by omega,by omega,isPrintable_hex false 4 unit⟩

theorem isPrintable_escapePoint (c : Nat) : (escapePoint c).IsPrintable := by
  unfold escapePoint
  split_ifs with _ _ _ _ _ _ _ plain _
  iterate 7 decide
  · exact (isPrintable_cons c []).mpr ⟨.inr plain,isPrintable_nil⟩
  · exact isPrintable_unitEscape c
  · exact (isPrintable_append _ _).mpr ⟨isPrintable_unitEscape _,isPrintable_unitEscape _⟩

/-- A text is written in printable ASCII whatever it holds. -/
theorem isPrintable_quote (t : Text) : (quote t).IsPrintable := by
  rw [quote,isPrintable_cons,isPrintable_append]
  exact ⟨by omega,List.forall_mem_flatMap.mpr fun c _ => isPrintable_escapePoint c,by decide⟩

/-! ### Values -/

theorem prettyItems_eq (level : Nat) (items : List Value) : prettyItems level items = items.map (prettyAt level) := by
  induction items with
  | nil => rfl
  | cons v rest ih => rw [prettyItems,ih,List.map_cons]

/-- The text of a member: its name, a colon and its value. -/
def prettyMember (level : Nat) (m : Text × Value) : Text := quote m.1 ++ (": " : Text) ++ prettyAt level m.2

theorem prettyMembers_eq (level : Nat) (members : List (Text × Value)) :
    prettyMembers level members = members.map (prettyMember level) := by
  induction members with
  | nil => rfl
  | cons m rest ih =>
    rw [prettyMembers,ih,List.map_cons]
    rfl

theorem isPrintable_newline (level : Nat) : (newline level).IsPrintable := by
  rw [newline,isPrintable_cons]
  refine ⟨by omega,fun c member => ?_⟩
  have blank := List.eq_of_mem_replicate member
  omega

theorem isPrintable_enclose (level : Nat) {opening closing : Nat} {items : List Text}
    (brackets : IsPrintable [opening,closing]) (each : ∀ item ∈ items, item.IsPrintable) :
    (enclose level opening closing items).IsPrintable := by
  unfold enclose
  split
  · exact brackets
  · have inside : (join (0x2C :: newline (level+1)) items).IsPrintable :=
      forall_mem_join ((isPrintable_cons _ _).mpr ⟨by omega,isPrintable_newline _⟩) each
    simp only [isPrintable_cons] at brackets
    simp [isPrintable_newline,inside,brackets]

/-- An exact value is written in lines of printable ASCII. -/
theorem isPrintable_prettyAt {v : Value} (exact : v.Exact) (level : Nat) : (prettyAt level v).IsPrintable := by
  induction exact generalizing level with
  | null => exact (by decide : IsPrintable "null")
  | bool b =>
    cases b with
    | false => exact (by decide : IsPrintable "false")
    | true => exact (by decide : IsPrintable "true")
  | int n _ => exact isPrintable_ofInt n
  | str t => exact isPrintable_quote t
  | arr _ ih =>
    rw [prettyAt,prettyItems_eq]
    refine isPrintable_enclose level (by decide) (List.forall_mem_map.mpr fun v member => ih v member _)
  | obj _ _ ih =>
    rw [prettyAt,prettyMembers_eq]
    refine isPrintable_enclose level (by decide) (List.forall_mem_map.mpr fun m member => ?_)
    rw [prettyMember,isPrintable_append,isPrintable_append]
    exact ⟨⟨isPrintable_quote m.1,by decide⟩,ih m member _⟩

/-! ### Sorted members -/

theorem sortItems_eq (items : List Value) : sortItems items = items.map sortMembers := by
  induction items with
  | nil => rfl
  | cons v rest ih => rw [sortItems,ih,List.map_cons]

theorem sortInside_eq (members : List (Text × Value)) :
    sortInside members = members.map fun m => (m.1,sortMembers m.2) := by
  induction members with
  | nil => rfl
  | cons m rest ih => rw [sortInside,ih,List.map_cons]

/-- Sorting its members leaves a value exact. -/
theorem exact_sortMembers {v : Value} (exact : v.Exact) : (sortMembers v).Exact := by
  induction exact with
  | null => exact .null
  | bool b => exact .bool b
  | int n writable => exact .int n writable
  | str t => exact .str t
  | arr _ ih =>
    rw [sortMembers,sortItems_eq]
    exact .arr (List.forall_mem_map.mpr ih)
  | obj distinct _ ih =>
    rw [sortMembers,sortInside_eq]
    rename_i members _
    have order := List.mergeSort_perm (members.map fun m => (m.1,sortMembers m.2)) fun a b => Text.le a.1 b.1
    refine .obj ?_ fun m member => ?_
    · rw [(order.map (·.1)).nodup_iff,List.map_map]
      exact distinct
    · obtain ⟨old,among,rfl⟩ := List.mem_map.mp (order.mem_iff.mp member)
      exact ih old among

end Json

end ApiDocs
