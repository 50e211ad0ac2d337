import ApiDocs.Proofs.Json.Reads
import ApiDocs.Proofs.Json.Written

/-!
Exact values are read back from the texts that are written of them (`readWithin_pretty`), as long as their texts hold no
surrogates and they are not nested more deeply than the reader follows.
-/
namespace ApiDocs

namespace Json
open Text Value

/-- A new line and its indentation are blank. -/
theorem isGap_newline (level : Nat) : IsGap (newline level) := by
  intro c member
  rcases List.mem_cons.mp member with rfl | blank
  · rfl
  · rw [List.eq_of_mem_replicate blank]
    rfl

/-- Enclosed items stand between brackets with nothing but blanks around them. -/
theorem enclose_eq_bracketed (level opening closing : Nat) (items : List Text) :
    ∃ lead last, IsGap lead ∧ IsGap last ∧
      enclose level opening closing items = bracketed opening closing lead (newline (level+1)) last items := by
  by_cases full : items = []
  · subst full
    exact ⟨[],[],by decide,by decide,rfl⟩
  · exact ⟨_,_,isGap_newline (level+1),isGap_newline level,by simp [enclose,bracketed,full]⟩

/-- An exact value without surrogates is read back from its text, if the reader has room for it. -/
theorem reads_prettyAt {v : Value} (exact : v.Exact) (scalar : ∀ t ∈ v.texts, t.IsScalar) {room : Nat}
    (shallow : v.nesting ≤ room) (level : Nat) : Reads room (prettyAt level v) v := by
  induction exact generalizing room level with
  | null => exact reads_null room
  | bool b => exact reads_bool room b
  | int n writable => exact reads_ofInt room writable
  | str t => exact reads_quote room (scalar t List.mem_cons_self)
  | @arr items _ ih =>
    obtain ⟨room,rfl⟩ : ∃ r, room = r + 1 := ⟨room - 1,by simp only [nesting] at shallow; omega⟩
    obtain ⟨lead,last,leadBlank,lastBlank,same⟩ :=
      enclose_eq_bracketed level 0x5B 0x5D (items.map (prettyAt (level+1)))
    have each : ∀ v ∈ items, Reads room (prettyAt (level+1) v) v := fun v member =>
      ih v member (texts_arr.mp scalar v member) ((nesting_arr_le items room).mp shallow v member) (level+1)
    rw [prettyAt,prettyItems_eq,same]
    simpa using reads_arr leadBlank (isGap_newline (level+1)) lastBlank each
  | @obj members distinct _ ih =>
    obtain ⟨room,rfl⟩ : ∃ r, room = r + 1 := ⟨room - 1,by simp only [nesting] at shallow; omega⟩
    obtain ⟨lead,last,leadBlank,lastBlank,same⟩ :=
      enclose_eq_bracketed level 0x7B 0x7D (members.map (prettyMember (level+1)))
    have each : ∀ m ∈ members, m.1.IsScalar ∧ Reads room (prettyAt (level+1) m.2) m.2 := fun m member =>
      have inside := texts_obj.mp scalar m member
      ⟨inside.1,ih m member inside.2 ((nesting_obj_le members room).mp shallow m member) (level+1)⟩
    have whole := reads_obj leadBlank (isGap_newline (level+1)) lastBlank distinct each
    rw [prettyAt,prettyMembers_eq,same]
    rwa [List.map_id'] at whole

/-- What is written of an exact value without surrogates is read as that value, if there is room for it. -/
theorem readWithin_pretty {v : Value} (exact : v.Exact) (scalar : ∀ t ∈ v.texts, t.IsScalar) {room : Nat}
    (shallow : v.nesting ≤ room) : readWithin room (pretty v) = .ok v :=
  (reads_prettyAt exact scalar shallow 0).readWithin_eq (isPrintable_prettyAt exact 0).isAscii

end Json

end ApiDocs
