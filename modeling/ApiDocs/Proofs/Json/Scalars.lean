import ApiDocs.Json.Reader
import ApiDocs.Json.Writer
import ApiDocs.Proofs.Text.Printable
import ApiDocs.Render

/-!
Strings and integers are read back as they were written: a text without surrogates between its quotes
(`readString_quote`), and an integer with as many digits as the reader takes (`readNumber_ofInt`).
-/
namespace ApiDocs

namespace Text

/-! ### Digits -/

theorem digitsValue_ofNat (n : Nat) : digitsValue (ofNat n) = n := by
  rw [digitsValue,ofNat,List.foldl_map]
  exact Nat.ofDigitChars_ten_toDigits

theorem ofNat_ne_nil (n : Nat) : ofNat n ≠ [] := by
  simp [ofNat,Nat.toDigits_ne_nil]

/-- Nothing but digits, and at least one. -/
def IsDigits (t : Text) : Prop := t ≠ [] ∧ ∀ c ∈ t, isDigit c = true

theorem isDigits_ofNat (n : Nat) : IsDigits (ofNat n) := ⟨ofNat_ne_nil n,fun _ => isDigit_of_mem_ofNat⟩

theorem IsDigits.eq_cons {t : Text} (digits : IsDigits t) : ∃ c more, t = c :: more ∧ isDigit c = true := by
  obtain ⟨c,more,rfl⟩ := List.exists_cons_of_ne_nil digits.1
  exact ⟨c,more,rfl,digits.2 c List.mem_cons_self⟩

/-- No digit stands in front. -/
def NoDigit (t : Text) : Prop := ∀ c rest, t = c :: rest → isDigit c = false

/-- Only zero begins with a zero. -/
theorem head?_ofNat {n : Nat} (positive : 0 < n) : (ofNat n).head? ≠ some 0x30 := by
  induction n using Nat.strongRecOn with
  | ind n ih =>
    rw [ofNat,Nat.toDigits_eq_if (by decide)]
    split
    · rename_i small
      have first : ∀ d < 10, 0 < d → (Nat.digitChar d).toNat ≠ 0x30 := by decide
      simpa using first n small positive
    · rename_i large
      have later := ih (n / 10) (Nat.div_lt_self positive (by decide)) (by omega)
      rw [List.map_append,List.head?_append]
      cases digits : (Nat.toDigits 10 (n / 10)).map Char.toNat with
      | nil => exact absurd digits (ofNat_ne_nil (n / 10))
      | cons d more =>
        rw [ofNat,digits] at later
        exact later

theorem length_ofNat_le {n : Nat} (digits : Nat) (enough : 0 < digits) :
    (ofNat n).length ≤ digits ↔ n < Nat.pow 10 digits := by
  rw [ofNat,List.length_map]
  exact Nat.length_toDigits_le_iff (by decide) enough

theorem hexValue?_digit : ∀ d < 16, hexValue? (if d < 10 then 0x30 + d else 0x57 + d) = some d := by decide

end Text

namespace Json
open Text

/-! ### Strings -/

/-- Four hexadecimal digits are read as the number that they write. -/
theorem hexFour?_hex {n : Nat} (small : n < 0x10000) :
    ∃ a b c d, hex false 4 n = [a,b,c,d] ∧ hexFour? a b c d = some n := by
  refine ⟨_,_,_,_,rfl,?_⟩
  have digit (m : Nat) : hexValue? (if m % 16 < 10 then 0x30 + m % 16
      else (if false = true then 0x37 else 0x57) + m % 16) = some (m % 16) :=
    hexValue?_digit (m % 16) (Nat.mod_lt m (by decide))
  simp only [hexFour?,digit,bind,Option.bind,pure]
  exact congrArg some (by omega)

variable {opening : Nat} {high : Bool} {read rest : Text}

theorem readString_end : readString opening high read (0x22 :: rest) = .ok (read.reverse,rest) := by
  rw [readString.eq_def]
  rfl

theorem readString_plain {c : Nat} (noQuote : c ≠ 0x22) (noBackslash : c ≠ 0x5C) (noControl : 0x20 ≤ c) :
    readString opening high read (c :: rest) = readString opening false (c :: read) rest := by
  rw [readString.eq_def]
  split
  all_goals rename_i same
  · cases same
  · cases same
    exact absurd rfl noQuote
  iterate 4
    · cases same
      exact absurd rfl noBackslash
  · cases same
    exact if_neg (by omega)

theorem readString_escaped {c x : Nat} (escape : escaped? c = some x) (noUnit : c ≠ 0x75) :
    readString opening high read (0x5C :: c :: rest) = readString opening false (x :: read) rest := by
  rw [readString.eq_def]
  split
  all_goals rename_i same
  iterate 3 cases same
  iterate 2
    · cases same
      exact absurd rfl noUnit
  · cases same
    rw [escape]
  · rename_i other
    cases same
    exact (other c rest rfl rfl).elim

/-- A unit stands for itself unless it is the second half of a pair. -/
theorem readString_unit {n : Nat} (small : n < 0x10000) (more : rest ≠ []) :
    readString opening false read (unitEscape n ++ rest) = readString opening (isHigh n) (n :: read) rest := by
  obtain ⟨a,b,c,d,digits,unit⟩ := hexFour?_hex small
  have full : List.isEmpty rest = false := by simpa using more
  rw [unitEscape,digits,readString.eq_def]
  simp [unit,full]

/-- The second half of a pair is joined with the first. -/
theorem readString_low {n last : Nat} {before : Text} (low : isLow n = true) (small : n < 0x10000) (more : rest ≠ []) :
    readString opening true (last :: before) (unitEscape n ++ rest) =
      readString opening false (pairPoint last n :: before) rest := by
  obtain ⟨a,b,c,d,digits,unit⟩ := hexFour?_hex small
  have full : List.isEmpty rest = false := by simpa using more
  rw [unitEscape,digits,readString.eq_def]
  simp [unit,full,low]

/-- The two halves of a code point beyond the units make it up again. -/
theorem pairPoint_halves {c high low : Nat} (beyond : 0x10000 ≤ c) (first : high = 0xD800 + (c - 0x10000) / 0x400)
    (second : low = 0xDC00 + (c - 0x10000) % 0x400) : pairPoint high low = c := by
  unfold pairPoint
  omega

theorem pair_of_beyond {c : Nat} (beyond : 0x10000 ≤ c) (last : c < 0x110000) :
    0xD800 + (c - 0x10000) / 0x400 < 0x10000 ∧ isHigh (0xD800 + (c - 0x10000) / 0x400) = true ∧
    0xDC00 + (c - 0x10000) % 0x400 < 0x10000 ∧ isLow (0xDC00 + (c - 0x10000) % 0x400) = true ∧
    pairPoint (0xD800 + (c - 0x10000) / 0x400) (0xDC00 + (c - 0x10000) % 0x400) = c := by
  have quotient : (c - 0x10000) / 0x400 < 0x400 := by omega
  have remainder : (c - 0x10000) % 0x400 < 0x400 := by omega
  refine ⟨by omega,?_,by omega,?_,pairPoint_halves beyond rfl rfl⟩
  · simp only [isHigh,Bool.and_eq_true,decide_eq_true_eq]
    omega
  · simp only [isLow,Bool.and_eq_true,decide_eq_true_eq]
    omega

theorem readString_escapePoint {c : Nat} (scalar : isScalar c = true) (more : rest ≠ []) :
    readString opening false read (escapePoint c ++ rest) = readString opening false (c :: read) rest := by
  obtain ⟨last,noSurrogate⟩ := (Utf8.isScalar_iff c).mp scalar
  unfold escapePoint
  split_ifs with quote backslash feed ret tab back form plain short
  · subst quote
    exact readString_escaped rfl (by decide)
  · subst backslash
    exact readString_escaped rfl (by decide)
  · subst feed
    exact readString_escaped rfl (by decide)
  · subst ret
    exact readString_escaped rfl (by decide)
  · subst tab
    exact readString_escaped rfl (by decide)
  · subst back
    exact readString_escaped rfl (by decide)
  · subst form
    exact readString_escaped rfl (by decide)
  · exact readString_plain quote backslash plain.1
  · have whole : isHigh c = false := by
      simp only [isHigh,Bool.and_eq_false_imp,decide_eq_true_eq,decide_eq_false_iff_not]
      omega
    rw [readString_unit short more,whole]
  · obtain ⟨firstBound,isFirst,secondBound,isSecond,joined⟩ := pair_of_beyond (by omega) last
    generalize 0xD800 + (c - 0x10000) / 0x400 = first at firstBound isFirst joined ⊢
    generalize 0xDC00 + (c - 0x10000) % 0x400 = second at secondBound isSecond joined ⊢
    rw [List.append_assoc,readString_unit firstBound (by simp [unitEscape]),isFirst,
      readString_low isSecond secondBound more,joined]

/-- A text without surrogates is read back up to its closing quote. -/
theorem readString_quote {t : Text} (scalar : t.IsScalar) :
    readString opening false read (t.flatMap escapePoint ++ 0x22 :: rest) = .ok (read.reverse ++ t,rest) := by
  induction t generalizing read with
  | nil =>
    rw [List.append_nil]
    exact readString_end
  | cons c later ih =>
    obtain ⟨first,others⟩ := List.forall_mem_cons.mp scalar
    rw [List.flatMap_cons,List.append_assoc,readString_escapePoint first (by simp),ih others]
    simp

/-! ### Integers -/

/-- No digit, point or exponent stands in front: whatever number was read ends here. -/
def EndsNumber (t : Text) : Prop := ∀ c rest, t = c :: rest → isDigit c = false ∧ c ≠ 0x2E ∧ c ≠ 0x65 ∧ c ≠ 0x45

theorem EndsNumber.noDigit {t : Text} (ends : EndsNumber t) : NoDigit t := fun c rest same => (ends c rest same).1

/-- A number that ends behind its digits is an integer. -/
theorem readNumber_of_ends {t digits rest : Text} {negative : Bool} {body : Text} (sign : splitSign t = (negative,body))
    (whole : takeWhole? body = some (digits,rest)) (short : digits.length ≤ maxDigits) (ends : EndsNumber rest) :
    readNumber t = .ok (.int (if negative then -(digitsValue digits : Int) else digitsValue digits),rest) := by
  have nothing : takeFraction rest = ([],rest) ∧ takeExponent rest = (none,rest) := by
    cases rest with
    | nil => exact ⟨rfl,rfl⟩
    | cons c more =>
      obtain ⟨_,noPoint,noSmall,noCapital⟩ := ends c more rfl
      simp [takeFraction,takeExponent,noPoint,noSmall,noCapital]
  unfold readNumber
  simp only [sign,whole,nothing.1,nothing.2,Nat.not_lt.mpr short,↓reduceIte]
  rfl

/-- Digits are taken up to what is none. -/
theorem takeWhile_digits {digits rest : Text} (each : IsDigits digits) (stops : NoDigit rest) :
    (digits ++ rest).takeWhile isDigit = digits ∧ (digits ++ rest).dropWhile isDigit = rest := by
  rw [List.takeWhile_append_of_pos each.2,List.dropWhile_append_of_pos each.2]
  cases rest with
  | nil => simp
  | cons c more => simp [stops c more rfl]

/-- The digits of a whole number: a zero stands in front of no others. -/
def IsWhole (t : Text) : Prop := IsDigits t ∧ (t.head? = some 0x30 → t = [0x30])

theorem isWhole_ofNat (n : Nat) : IsWhole (ofNat n) := by
  refine ⟨isDigits_ofNat n,fun zero => ?_⟩
  rcases Nat.eq_zero_or_pos n with rfl | positive
  · rfl
  · exact absurd zero (head?_ofNat positive)

theorem takeWhole?_append {digits rest : Text} (whole : IsWhole digits) (stops : NoDigit rest) :
    takeWhole? (digits ++ rest) = some (digits,rest) := by
  obtain ⟨each,alone⟩ := whole
  obtain ⟨taken,dropped⟩ := takeWhile_digits each stops
  obtain ⟨c,more,rfl,digit⟩ := each.eq_cons
  by_cases zero : c = 0x30
  · subst zero
    obtain rfl : more = [] := by simpa using alone rfl
    rfl
  · rw [List.cons_append] at taken dropped ⊢
    unfold takeWhole?
    split
    · rename_i same
      exact absurd (List.cons.inj same).1 zero
    · rename_i same
      rw [← (List.cons.inj same).1,if_pos digit,taken,dropped]
    · rename_i same
      cases same

/-- Digits have no sign. -/
theorem splitSign_digits {digits : Text} (each : IsDigits digits) (rest : Text) :
    splitSign (digits ++ rest) = (false,digits ++ rest) := by
  obtain ⟨c,more,rfl,digit⟩ := each.eq_cons
  unfold splitSign
  split
  · rename_i same
    rw [(List.cons.inj same).1] at digit
    cases digit
  · rfl

/-- An integer with as many digits as the reader takes is read back. -/
theorem readNumber_ofInt {n : Int} (short : isWritableInt n = true) {rest : Text} (ends : EndsNumber rest) :
    readNumber (ofInt n ++ rest) = .ok (.int n,rest) := by
  have bound := of_decide_eq_true short
  have enough (m : Nat) (small : m < Nat.pow 10 maxWrittenDigits) : (ofNat m).length ≤ maxDigits :=
    (length_ofNat_le maxWrittenDigits (by decide)).mpr small
  cases n with
  | ofNat m =>
    rw [ofInt,readNumber_of_ends (splitSign_digits (isDigits_ofNat m) rest)
      (takeWhole?_append (isWhole_ofNat m) ends.noDigit) (enough m bound) ends,digitsValue_ofNat]
    rfl
  | negSucc m =>
    have sign : splitSign (0x2D :: ofNat (m+1) ++ rest) = (true,ofNat (m+1) ++ rest) := rfl
    rw [ofInt,readNumber_of_ends sign (takeWhole?_append (isWhole_ofNat (m+1)) ends.noDigit) (enough (m+1) bound) ends,
      digitsValue_ofNat]
    rfl

end Json

end ApiDocs
