import ApiDocs.Text.Encoding
import Mathlib.Data.List.TakeWhile

/-!
Which texts UTF-8 carries. A text is encoded when it holds no surrogate (`encode_of_isEncodable`), what is decoded
strictly holds none (`isScalar_of_decode`), and a text of ASCII is decoded from the octets that encode it
(`decode_encode_ascii`), also where their encoding has to be recognised first (`Encoding.decodeDetected?_ascii`).
-/
namespace ApiDocs

/-- The text holds no surrogate. -/
def Text.IsEncodable (t : Text) : Prop := ∀ c ∈ t, isSurrogate c = false

/-- The text holds nothing but ASCII. -/
def Text.IsAscii (t : Text) : Prop := ∀ c ∈ t, c < 0x80

instance (t : Text) : Decidable t.IsEncodable := inferInstanceAs (Decidable (∀ c ∈ t, _))

instance (t : Text) : Decidable t.IsAscii := inferInstanceAs (Decidable (∀ c ∈ t, _))

namespace Text

@[simp] theorem isEncodable_nil : IsEncodable [] := fun _ member => absurd member List.not_mem_nil

@[simp] theorem isEncodable_cons (c : Nat) (t : Text) :
    IsEncodable (c :: t) ↔ isSurrogate c = false ∧ t.IsEncodable := List.forall_mem_cons

@[simp] theorem isEncodable_append (a b : Text) : IsEncodable (a ++ b) ↔ a.IsEncodable ∧ b.IsEncodable :=
  List.forall_mem_append

@[simp] theorem isEncodable_reverse (t : Text) : IsEncodable t.reverse ↔ t.IsEncodable := by
  simp [IsEncodable]

theorem IsScalar.isEncodable {t : Text} (scalar : t.IsScalar) : t.IsEncodable := by
  intro c member
  have point := scalar c member
  simp only [isScalar,Bool.and_eq_true,Bool.not_eq_true'] at point
  exact point.2

theorem isScalar_ofString (s : String) : (ofString s).IsScalar := by
  intro c member
  obtain ⟨x,_,rfl⟩ := List.mem_map.mp member
  have valid : x.toNat < 0xD800 ∨ 0xDFFF < x.toNat ∧ x.toNat < 0x110000 := x.valid
  simp only [isScalar,isSurrogate,Bool.and_eq_true,decide_eq_true_eq,Bool.not_eq_true',Bool.and_eq_false_imp,
    decide_eq_false_iff_not]
  omega

/-- No literal holds a surrogate. -/
@[simp] theorem isEncodable_ofString (s : String) : (ofString s).IsEncodable := (isScalar_ofString s).isEncodable

theorem IsAscii.isEncodable {t : Text} (ascii : t.IsAscii) : t.IsEncodable := by
  intro c member
  have small := ascii c member
  simp only [isSurrogate,Bool.and_eq_false_imp,decide_eq_true_eq,decide_eq_false_iff_not]
  omega

end Text

namespace Utf8

theorem firstSurrogates?_eq_none (t : Text) : firstSurrogates? t = none ↔ t.IsEncodable := by
  unfold firstSurrogates?
  cases left : t.dropWhile (!isSurrogate ·) with
  | nil => simpa [Text.IsEncodable] using List.dropWhile_eq_nil_iff.mp left
  | cons c rest =>
    have member : c ∈ t := (List.dropWhile_suffix _).subset (left ▸ List.mem_cons_self)
    have kept : t.dropWhile (!isSurrogate ·) ≠ [] := by simp [left]
    have surrogate := List.head_dropWhile_not (!isSurrogate ·) kept
    simp only [left,List.head_cons,Bool.not_eq_eq_eq_not,Bool.not_false] at surrogate
    simp only [reduceCtorEq,false_iff]
    intro encodable
    exact absurd surrogate (by simp [encodable c member])

/-- A text without surrogates is encoded point by point. -/
theorem encode_of_isEncodable {t : Text} (encodable : t.IsEncodable) : encode t = .ok (t.flatMap encodePoint) := by
  rw [encode,(firstSurrogates?_eq_none t).mpr encodable]

/-! ### Decoding -/

theorem isScalar_iff (c : Nat) : isScalar c = true ↔ c < 0x110000 ∧ (c < 0xD800 ∨ 0xDFFF < c) := by
  simp only [isScalar,isSurrogate,Bool.and_eq_true,decide_eq_true_eq,Bool.not_eq_true',Bool.and_eq_false_imp,
    decide_eq_false_iff_not]
  omega

/-- Three octets that are let through do not write a surrogate. -/
theorem isScalar_three {a b : UInt8} (low : ¬ a < 0xE0) (high : a < 0xF0) (second : isSecondOfThree false a b = true)
    (c : UInt8) : isScalar (a.toNat % 0x10 * 0x1000 + b.toNat % 0x40 * 0x40 + c.toNat % 0x40) = true := by
  simp only [isSecondOfThree,isTail,Bool.false_or,Bool.and_eq_true,Bool.or_eq_true,decide_eq_true_eq,bne_iff_ne,ne_eq,
    UInt8.le_iff_toNat_le,UInt8.lt_iff_toNat_lt,← UInt8.toNat_inj,UInt8.reduceToNat] at low high second
  rw [isScalar_iff]
  omega

/-- Four octets that are let through write a code point beyond the surrogates, and not beyond the last one. -/
theorem isScalar_four {a b : UInt8} (low : ¬ a < 0xF0) (high : ¬ 0xF4 < a) (second : isSecondOfFour a b = true)
    (c d : UInt8) :
    isScalar (a.toNat % 8 * 0x40000 + b.toNat % 0x40 * 0x1000 + c.toNat % 0x40 * 0x40 + d.toNat % 0x40) = true := by
  simp only [isSecondOfFour,isTail,Bool.and_eq_true,Bool.or_eq_true,decide_eq_true_eq,bne_iff_ne,ne_eq,
    UInt8.le_iff_toNat_le,UInt8.lt_iff_toNat_lt,← UInt8.toNat_inj,UInt8.reduceToNat] at low high second
  rw [isScalar_iff]
  omega

/-- What one step of the strict decoder does: it comes to the end, or it reads a code point that is no surrogate. -/
theorem decodeFrom_step {pos : Nat} {read t : Text} {b : Bytes} (run : decodeFrom false pos read b = .ok t) :
    t = read.reverse ∨ ∃ c next rest, isScalar c = true ∧ rest.length < b.length ∧
      decodeFrom false next (c :: read) rest = .ok t := by
  cases b with
  | nil => exact .inl (Except.ok.inj run).symm
  | cons a rest =>
    rw [decodeFrom.eq_def] at run
    dsimp only at run
    split at run
    · rename_i one
      refine .inr ⟨_,_,rest,?_,by simp,run⟩
      simp only [UInt8.lt_iff_toNat_lt,UInt8.reduceToNat] at one
      rw [isScalar_iff]
      omega
    · split at run
      · cases run
      · rename_i start
        have high : ¬ 0xF4 < a := by simp at start; simp [start.2]
        split at run
        · split at run
          · cases run
          · split at run
            · refine .inr ⟨_,_,_,?_,by simp only [List.length_cons]; omega,run⟩
              rw [isScalar_iff]
              omega
            · cases run
        · rename_i low
          split at run
          · rename_i three
            split at run
            · cases run
            · split at run
              · cases run
              · rename_i second
                split at run
                · cases run
                · split at run
                  · refine .inr ⟨_,_,_,isScalar_three low three (by simpa using second) _,?_,run⟩
                    simp only [List.length_cons]
                    omega
                  · cases run
          · rename_i four
            split at run
            · cases run
            · split at run
              · cases run
              · rename_i second
                split at run
                · cases run
                · split at run
                  · cases run
                  · split at run
                    · cases run
                    · split at run
                      · refine .inr ⟨_,_,_,isScalar_four four high (by simpa using second) _ _,?_,run⟩
                        simp only [List.length_cons]
                        omega
                      · cases run

/-- What is decoded strictly holds no surrogate, if what was read before holds none. -/
theorem isScalar_of_decodeFrom {pos : Nat} {read t : Text} {b : Bytes} (before : read.IsScalar)
    (run : decodeFrom false pos read b = .ok t) : t.IsScalar := by
  induction size : b.length using Nat.strongRecOn generalizing pos read b with
  | ind n ih =>
    obtain rfl | ⟨c,next,rest,scalar,shorter,later⟩ := decodeFrom_step run
    · exact fun c member => before c (List.mem_reverse.mp member)
    · have more : Text.IsScalar (c :: read) := by
        intro x member
        rcases List.mem_cons.mp member with rfl | old
        · exact scalar
        · exact before x old
      exact ih rest.length (size ▸ shorter) more later rfl

theorem isScalar_of_decode {b : Bytes} {t : Text} (run : decode b = .ok t) : t.IsScalar :=
  isScalar_of_decodeFrom (fun _ member => absurd member List.not_mem_nil) run

theorem encodePoint_ascii {c : Nat} (small : c < 0x80) : encodePoint c = [c.toUInt8] ∧ c.toUInt8.toNat = c := by
  refine ⟨by simp [encodePoint,small],?_⟩
  simp
  omega

/-- The octets of ASCII are the code points themselves. -/
theorem decodeFrom_ascii {t : Text} (ascii : t.IsAscii) (lenient : Bool) (pos : Nat) (read : Text) :
    decodeFrom lenient pos read (t.flatMap encodePoint) = .ok (read.reverse ++ t) := by
  induction t generalizing pos read with
  | nil => simp [decodeFrom]
  | cons c rest ih =>
    have small : c < 0x80 := ascii c List.mem_cons_self
    have later : Text.IsAscii rest := fun x member => ascii x (List.mem_cons_of_mem c member)
    obtain ⟨octet,same⟩ := encodePoint_ascii small
    have low : c.toUInt8 < 0x80 := by
      rw [UInt8.lt_iff_toNat_lt,same]
      exact small
    rw [List.flatMap_cons,octet,List.singleton_append,decodeFrom.eq_def]
    simp only [low,↓reduceIte,same,ih later,List.reverse_cons,List.append_assoc,List.singleton_append]

/-- A text of ASCII is encoded, and decoded again. -/
theorem decode_encode_ascii {t : Text} (ascii : t.IsAscii) :
    encode t = .ok (t.flatMap encodePoint) ∧ decode (t.flatMap encodePoint) = .ok t :=
  ⟨encode_of_isEncodable ascii.isEncodable,decodeFrom_ascii ascii false 0 []⟩

end Utf8

/-! ### Detection -/

namespace Encoding

/-- Octets of ASCII show no other encoding, if no zero is among them. -/
theorem detect_of_plain {b : Bytes} (plain : ∀ a ∈ b, a ≠ 0 ∧ a < 0x80) : detect b = (.utf8,0) := by
  have heads : ∀ entry ∈ marks, ∃ a more, entry.1 = a :: more ∧ ¬ (a ≠ 0 ∧ a < 0x80) := by
    simp only [marks,List.forall_mem_cons]
    exact ⟨⟨_,_,rfl,by decide⟩,⟨_,_,rfl,by decide⟩,⟨_,_,rfl,by decide⟩,⟨_,_,rfl,by decide⟩,⟨_,_,rfl,by decide⟩,by simp⟩
  have known : unmarked b = .utf8 := by
    unfold unmarked
    split
    · simp only [List.forall_mem_cons] at plain
      simp [plain.1.1,plain.2.1.1]
    · simp only [List.forall_mem_cons] at plain
      simp [plain.1.1,plain.2.1.1]
    · rfl
  unfold detect
  split
  · rename_i mark encoding found
    have begins := List.find?_some found
    obtain ⟨a,more,same,odd⟩ := heads _ (List.mem_of_find?_eq_some found)
    dsimp only at same begins
    rw [same] at begins
    obtain ⟨rest,rfl⟩ := List.isPrefixOf_iff_prefix.mp begins
    exact absurd (plain a List.mem_cons_self) odd
  · rw [known]

/-- A text of ASCII is recognised from its octets, if no zero is among them. -/
theorem decodeDetected?_ascii {t : Text} (ascii : t.IsAscii) (full : 0 ∉ t) :
    decodeDetected? (t.flatMap Utf8.encodePoint) = some t := by
  have plain : ∀ a ∈ t.flatMap Utf8.encodePoint, a ≠ 0 ∧ a < 0x80 := by
    refine List.forall_mem_flatMap.mpr fun c member => ?_
    obtain ⟨octet,same⟩ := Utf8.encodePoint_ascii (ascii c member)
    have nonzero : c ≠ 0 := fun zero => full (zero ▸ member)
    rw [octet,List.forall_mem_singleton,UInt8.lt_iff_toNat_lt,ne_eq,← UInt8.toNat_inj,same]
    exact ⟨nonzero,ascii c member⟩
  rw [decodeDetected?,detect_of_plain plain]
  dsimp only
  rw [List.drop_zero,decode?,Utf8.decodeLenient,Utf8.decodeFrom_ascii ascii]
  rfl

end Encoding

end ApiDocs
