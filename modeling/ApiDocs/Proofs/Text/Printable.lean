import ApiDocs.Proofs.Text.Lines
import ApiDocs.Proofs.Text.Utf8

/-!
Texts of printable ASCII, and that numbers are written in it.
-/
namespace ApiDocs

/-- The text consists of lines of printable ASCII. -/
def Text.IsPrintable (t : Text) : Prop := ∀ c ∈ t, c = 0x0A ∨ (0x20 ≤ c ∧ c ≤ 0x7E)

instance (t : Text) : Decidable t.IsPrintable := inferInstanceAs (Decidable (∀ c ∈ t, _))

namespace Text

theorem IsPrintable.isAscii {t : Text} (printable : t.IsPrintable) : t.IsAscii := by
  intro c member
  have point := printable c member
  omega

theorem IsPrintable.noReturn {t : Text} (printable : t.IsPrintable) : 13 ∉ t := by
  intro member
  have point := printable 13 member
  omega

@[simp] theorem isPrintable_nil : IsPrintable [] := fun _ member => absurd member List.not_mem_nil

@[simp] theorem isPrintable_cons (c : Nat) (t : Text) :
    IsPrintable (c :: t) ↔ (c = 0x0A ∨ (0x20 ≤ c ∧ c ≤ 0x7E)) ∧ t.IsPrintable := List.forall_mem_cons

@[simp] theorem isPrintable_append (a b : Text) : IsPrintable (a ++ b) ↔ a.IsPrintable ∧ b.IsPrintable :=
  List.forall_mem_append

theorem isPrintable_hex (upper : Bool) (width n : Nat) : (hex upper width n).IsPrintable := by
  induction width generalizing n with
  | zero => exact isPrintable_nil
  | succ width ih =>
    rw [hex,isPrintable_append,isPrintable_cons]
    refine ⟨ih (n / 16),?_,isPrintable_nil⟩
    cases upper <;> (simp only [Bool.false_eq_true,↓reduceIte]; split <;> omega)

theorem isDigit_of_mem_ofNat {n c : Nat} (member : c ∈ ofNat n) : isDigit c = true := by
  obtain ⟨d,inside,rfl⟩ := List.mem_map.mp member
  have digit : d.isDigit = true := Nat.isDigit_of_mem_toDigits (b := 10) (by decide) (by decide) inside
  simpa [isDigit,Char.isDigit,UInt32.le_iff_toNat_le] using digit

theorem isPrintable_ofNat (n : Nat) : (ofNat n).IsPrintable := by
  intro c member
  have digit := isDigit_of_mem_ofNat member
  simp only [isDigit,Bool.and_eq_true,decide_eq_true_eq] at digit
  omega

theorem isPrintable_ofInt (n : Int) : (ofInt n).IsPrintable := by
  cases n with
  | ofNat n => exact isPrintable_ofNat n
  | negSucc n =>
    rw [ofInt,isPrintable_cons]
    exact ⟨by omega,isPrintable_ofNat (n+1)⟩

end Text

end ApiDocs
