import ApiDocs.Json.Reader
import ApiDocs.Proofs.Result
import ApiDocs.Proofs.Value.Exact
import Mathlib.Data.List.Basic

/-!
What the reader of JSON texts returns. Nothing foreign is in it, no name stands twice in an object (`decoded_of_read`), and
it is not nested more deeply than the reader follows (`nesting_of_read`).
-/
namespace ApiDocs

namespace Value

theorem areJson_iff (items : List Value) : areJson items = true ↔ ∀ v ∈ items, v.isJson = true := by
  induction items with
  | nil => simp [areJson]
  | cons v rest ih => simp [areJson,ih]

theorem membersAreJson_iff (members : List (Text × Value)) :
    membersAreJson members = true ↔ ∀ m ∈ members, m.2.isJson = true := by
  induction members with
  | nil => simp [membersAreJson]
  | cons m rest ih => simp [membersAreJson,ih]

/-- A value as it is read from a JSON text: nothing foreign is in it, and the names of an object are distinct. -/
inductive Decoded : Value → Prop
  | null : Decoded .null
  | bool (b : Bool) : Decoded (.bool b)
  | int (n : Int) : Decoded (.int n)
  | float (x : Binary64) : Decoded (.float x)
  | str (t : Text) : Decoded (.str t)
  | arr {items : List Value} (each : ∀ v ∈ items, Decoded v) : Decoded (.arr items)
  | obj {members : List (Text × Value)} (distinct : (members.map (·.1)).Nodup) (each : ∀ m ∈ members, Decoded m.2) :
    Decoded (.obj members)

theorem Decoded.isJson {v : Value} (decoded : v.Decoded) : v.isJson = true := by
  induction decoded with
  | arr _ ih => exact (areJson_iff _).mpr ih
  | obj _ _ ih => exact (membersAreJson_iff _).mpr ih
  | _ => rfl

/-! ### Binding a member -/

theorem mem_insert {name : Text} {v : Value} {members : List (Text × Value)} {m : Text × Value}
    (member : m ∈ insert name v members) : m = (name,v) ∨ m ∈ members := by
  induction members with
  | nil => exact .inl (List.mem_singleton.mp member)
  | cons first rest ih =>
    rw [insert] at member
    split at member
    · rename_i same
      rcases List.mem_cons.mp member with rfl | later
      · exact .inl (Prod.ext same rfl)
      · exact .inr (List.mem_cons_of_mem first later)
    · rcases List.mem_cons.mp member with rfl | later
      · exact .inr List.mem_cons_self
      · exact (ih later).imp_right (List.mem_cons_of_mem first)

theorem names_insert (name : Text) (v : Value) (members : List (Text × Value)) :
    (insert name v members).map (·.1) =
      if name ∈ members.map (·.1) then members.map (·.1) else members.map (·.1) ++ [name] := by
  induction members with
  | nil => rfl
  | cons first rest ih =>
    by_cases same : first.1 = name
    · simp [insert,same]
    · simp only [insert,same,↓reduceIte,List.map_cons,ih,List.mem_cons,Ne.symm same,false_or]
      split <;> rfl

/-- A member of a new name comes last. -/
theorem insert_absent {name : Text} {members : List (Text × Value)} (absent : name ∉ members.map (·.1)) (v : Value) :
    insert name v members = members ++ [(name,v)] := by
  induction members with
  | nil => rfl
  | cons m rest ih =>
    simp only [List.map_cons,List.mem_cons,not_or] at absent
    simp [insert,Ne.symm absent.1,ih absent.2]

/-- A new member comes behind members of other names, so names stay distinct. -/
theorem nodup_insert {members : List (Text × Value)} (distinct : (members.map (·.1)).Nodup) (name : Text) (v : Value) :
    ((insert name v members).map (·.1)).Nodup := by
  rw [names_insert]
  split
  · exact distinct
  · rename_i new
    refine List.nodup_append.mpr ⟨distinct,by simp,?_⟩
    rintro old member _ last rfl
    exact new (List.mem_singleton.mp last ▸ member)

/-- A decoded value with no more than so many containers around anything in it. -/
structure DecodedWithin (room : Nat) (v : Value) : Prop where
  decoded : v.Decoded
  shallow : v.nesting ≤ room

/-- Members of distinct names, all within some room. -/
structure DecodedMembers (room : Nat) (members : List (Text × Value)) : Prop where
  distinct : (members.map (·.1)).Nodup
  each : ∀ m ∈ members, m.2.DecodedWithin room

theorem DecodedWithin.leaf {room : Nat} {v : Value} (decoded : v.Decoded) (flat : v.nesting = 0) :
    v.DecodedWithin room := ⟨decoded,flat ▸ Nat.zero_le room⟩

theorem DecodedWithin.arr {room : Nat} {items : List Value} (each : ∀ v ∈ items, v.DecodedWithin room) :
    (Value.arr items).DecodedWithin (room+1) :=
  ⟨.arr fun v member => (each v member).decoded,(nesting_arr_le items room).mpr fun v member => (each v member).shallow⟩

theorem DecodedMembers.obj {room : Nat} {members : List (Text × Value)} (within : DecodedMembers room members) :
    (Value.obj members).DecodedWithin (room+1) :=
  ⟨.obj within.distinct fun m member => (within.each m member).decoded,
    (nesting_obj_le members room).mpr fun m member => (within.each m member).shallow⟩

theorem DecodedMembers.insert {room : Nat} {members : List (Text × Value)} (within : DecodedMembers room members)
    (name : Text) {v : Value} (own : v.DecodedWithin room) : DecodedMembers room (Value.insert name v members) := by
  refine ⟨nodup_insert within.distinct name v,fun m member => ?_⟩
  rcases mem_insert member with rfl | old
  · exact own
  · exact within.each m old

end Value

namespace Json
open Value

/-- However a number was put together, it is an integer or a fraction. -/
theorem within_numberCases {short long : Prop} [Decidable short] [Decidable long] {stop : Stop} {n : Int}
    {x : Binary64} {v : Value} {after later rest : Text}
    (run : (if short then (if long then .error stop else .ok (.int n,after)) else .ok (.float x,later) :
      Except Stop (Value × Text)) = .ok (v,rest)) (room : Nat) : v.DecodedWithin room := by
  split at run
  · split at run
    · cases run
    · cases run; exact .leaf (.int _) rfl
  · cases run; exact .leaf (.float _) rfl

theorem within_readNumber {t : Text} {v : Value} {rest : Text} (run : readNumber t = .ok (v,rest)) (room : Nat) :
    v.DecodedWithin room := by
  unfold readNumber at run
  split at run
  dsimp only at run
  split at run
  · cases run
  · exact within_numberCases run room

theorem within_words {entry : Text × Value} (member : entry ∈ words) (room : Nat) : entry.2.DecodedWithin room := by
  simp only [words,List.mem_cons,List.not_mem_nil,or_false] at member
  rcases member with rfl | rfl | rfl | rfl | rfl | rfl
  · exact .leaf .null rfl
  · exact .leaf (.bool true) rfl
  · exact .leaf (.bool false) rfl
  all_goals exact .leaf (.float _) rfl

/-- With some fuel the three readers return decoded values within their room, if what was read before consists of
    such. -/
structure ReadsDecoded (fuel : Nat) : Prop where
  value : ∀ {room t v rest}, readValue fuel room t = .ok (v,rest) → v.DecodedWithin room
  items : ∀ {room read t items rest}, (∀ v ∈ read, v.DecodedWithin room) →
    readItems fuel room read t = .ok (items,rest) → ∀ v ∈ items, v.DecodedWithin room
  members : ∀ {room read t members rest}, DecodedMembers room read →
    readMembers fuel room read t = .ok (members,rest) → DecodedMembers room members

theorem within_readValue {fuel : Nat} (previous : ReadsDecoded fuel) {room : Nat} {t : Text} {v : Value} {rest : Text}
    (run : readValue (fuel+1) room t = .ok (v,rest)) : v.DecodedWithin room := by
  have none (room : Nat) : DecodedMembers room [] := ⟨List.nodup_nil,by simp⟩
  rw [readValue.eq_def] at run
  dsimp only at run
  split at run
  · obtain ⟨⟨s,after⟩,_,same⟩ := map_eq_ok run
    cases same
    exact .leaf (.str s) rfl
  · split at run
    · cases run
    · rename_i open_
      obtain ⟨room,rfl⟩ := Nat.exists_eq_succ_of_ne_zero open_
      split at run
      · cases run
        exact (none room).obj
      · obtain ⟨⟨members,after⟩,inner,same⟩ := map_eq_ok run
        cases same
        exact (previous.members (none room) inner).obj
  · split at run
    · cases run
    · rename_i open_
      obtain ⟨room,rfl⟩ := Nat.exists_eq_succ_of_ne_zero open_
      split at run
      · cases run
        exact .arr (by simp)
      · obtain ⟨⟨items,after⟩,inner,same⟩ := map_eq_ok run
        cases same
        exact .arr (previous.items (by simp) inner)
  · split at run
    · rename_i word w found
      cases run
      exact within_words (List.mem_of_find?_eq_some found) room
    · exact within_readNumber run room

theorem within_readItems {fuel : Nat} (previous : ReadsDecoded fuel) {room : Nat} {read : List Value} {t : Text}
    {items : List Value} {rest : Text} (before : ∀ v ∈ read, v.DecodedWithin room)
    (run : readItems (fuel+1) room read t = .ok (items,rest)) : ∀ v ∈ items, v.DecodedWithin room := by
  rw [readItems.eq_def] at run
  dsimp only at run
  split at run
  · cases run
  · rename_i v after found
    have more : ∀ w ∈ v :: read, w.DecodedWithin room := List.forall_mem_cons.mpr ⟨previous.value found,before⟩
    split at run
    · cases run
      exact fun w member => more w (List.mem_reverse.mp member)
    · exact previous.items more run
    · cases run

theorem within_readMembers {fuel : Nat} (previous : ReadsDecoded fuel) {room : Nat} {read : List (Text × Value)}
    {t : Text} {members : List (Text × Value)} {rest : Text} (before : DecodedMembers room read)
    (run : readMembers (fuel+1) room read t = .ok (members,rest)) : DecodedMembers room members := by
  rw [readMembers.eq_def] at run
  dsimp only at run
  split at run
  · split at run
    · cases run
    · rename_i name after _
      split at run
      · split at run
        · cases run
        · rename_i v _ found
          have more := before.insert name (previous.value found)
          split at run
          · cases run; exact more
          · exact previous.members more run
          · cases run
      · cases run
  · cases run

theorem readsDecoded (fuel : Nat) : ReadsDecoded fuel := by
  induction fuel with
  | zero =>
    refine ⟨?_,?_,?_⟩
    · intro room t v rest run
      rw [readValue.eq_def] at run
      cases run
    · intro room read t items rest _ run
      rw [readItems.eq_def] at run
      cases run
    · intro room read t members rest _ run
      rw [readMembers.eq_def] at run
      cases run
  | succ fuel ih => exact ⟨within_readValue ih,within_readItems ih,within_readMembers ih⟩

theorem within_of_read {t : Text} {v : Value} (run : read t = .ok v) : v.DecodedWithin maxDepth := by
  unfold read readWithin at run
  dsimp only at run
  split at run
  · cases run
  · split at run
    · cases run
    · rename_i w rest found
      split at run
      · cases run
        exact (readsDecoded _).value found
      · cases run

/-- Nothing foreign is in what a JSON text says, and no name stands twice in an object. -/
theorem decoded_of_read {t : Text} {v : Value} (run : read t = .ok v) : v.Decoded := (within_of_read run).decoded

/-- What a JSON text says is not nested more deeply than the reader follows. -/
theorem nesting_of_read {t : Text} {v : Value} (run : read t = .ok v) : v.nesting ≤ maxDepth :=
  (within_of_read run).shallow

end Json

end ApiDocs
