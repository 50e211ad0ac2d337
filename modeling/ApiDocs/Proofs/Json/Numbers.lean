import ApiDocs.Proofs.Json.Reads

/-!
A number that is no integer is written with a fraction or an exponent behind its digits, in whatever layout
(`isFractional_place`), or as a word where it has no digits, and so it is read as a number that is no integer again
(`reads_float`).
-/
namespace ApiDocs

namespace Json
open Text

/-! ### Fractions and exponents -/

/-- A fraction: nothing, or a point and digits. -/
inductive IsFraction : Text → Prop
  | none : IsFraction []
  | digits {t : Text} (each : IsDigits t) : IsFraction (0x2E :: t)

/-- An exponent: nothing, or its letter, a sign and digits. -/
inductive IsExponent : Text → Prop
  | none : IsExponent []
  | digits {sign : Nat} {t : Text} (signed : sign = 0x2B ∨ sign = 0x2D) (each : IsDigits t) :
    IsExponent (0x65 :: sign :: t)

/-- The digits of a whole number with a fraction, an exponent or both behind them. -/
inductive IsFractional : Text → Prop
  | intro {whole fraction exponent : Text} (digits : IsWhole whole) (point : IsFraction fraction)
    (power : IsExponent exponent) (some : fraction ≠ [] ∨ exponent ≠ []) :
    IsFractional (whole ++ (fraction ++ exponent))

theorem isWhole_zero : IsWhole [0x30] := ⟨⟨by decide,by decide⟩,fun _ => rfl⟩

theorem isWhole_cons {c : Nat} {more : Text} (first : isDigit c = true) (noZero : c ≠ 0x30)
    (each : ∀ d ∈ more, isDigit d = true) : IsWhole (c :: more) :=
  ⟨⟨by simp,List.forall_mem_cons.mpr ⟨first,each⟩⟩,fun zero => absurd (by simpa using zero) noZero⟩

theorem isFraction_zero : IsFraction (".0" : Text) := .digits ⟨by decide,by decide⟩

/-- Neither a digit nor a point stands in front. -/
def EndsFraction (t : Text) : Prop := ∀ c rest, t = c :: rest → isDigit c = false ∧ c ≠ 0x2E

theorem EndsFraction.noDigit {t : Text} (ends : EndsFraction t) : NoDigit t := fun c rest same => (ends c rest same).1

theorem EndsNumber.endsFraction {t : Text} (ends : EndsNumber t) : EndsFraction t :=
  fun c rest same => ⟨(ends c rest same).1,(ends c rest same).2.1⟩

theorem IsExponent.endsFraction {exponent : Text} (power : IsExponent exponent) {rest : Text} (ends : EndsNumber rest) :
    EndsFraction (exponent ++ rest) := by
  cases power with
  | none => exact ends.endsFraction
  | digits _ _ =>
    intro _ _ same
    cases same
    decide

theorem IsFraction.noDigit {fraction : Text} (point : IsFraction fraction) {rest : Text} (ends : EndsFraction rest) :
    NoDigit (fraction ++ rest) := by
  cases point with
  | none => exact ends.noDigit
  | digits _ =>
    intro _ _ same
    cases same
    decide

theorem takeFraction_append {fraction : Text} (point : IsFraction fraction) {rest : Text} (ends : EndsFraction rest) :
    takeFraction (fraction ++ rest) = (fraction.drop 1,rest) ∧ (fraction.drop 1 = [] ↔ fraction = []) := by
  cases point with
  | none =>
    refine ⟨?_,by simp⟩
    rw [List.nil_append,takeFraction.eq_def]
    split
    · rename_i after
      exact absurd rfl (ends _ after rfl).2
    · rfl
  | @digits t each =>
    obtain ⟨taken,dropped⟩ := takeWhile_digits each ends.noDigit
    simp [takeFraction,taken,dropped,each.1]

theorem takeExponent_append {exponent : Text} (power : IsExponent exponent) :
    ∃ x : Option Int, (x = none ↔ exponent = []) ∧
      ∀ rest, EndsNumber rest → takeExponent (exponent ++ rest) = (x,rest) := by
  cases power with
  | none =>
    refine ⟨none,by simp,fun rest ends => ?_⟩
    cases rest with
    | nil => rfl
    | cons c more =>
      obtain ⟨_,_,noSmall,noCapital⟩ := ends c more rfl
      simp [takeExponent,noSmall,noCapital]
  | @digits sign t signed each =>
    refine ⟨some (if sign = 0x2D then -(digitsValue t : Int) else digitsValue t),by simp,fun rest ends => ?_⟩
    obtain ⟨taken,dropped⟩ := takeWhile_digits each ends.noDigit
    rcases signed with rfl | rfl
    all_goals simp [takeExponent,splitExponentSign,taken,dropped,each.1]

/-- A number with a fraction or an exponent is read as one number whatever follows it. -/
theorem readNumber_fractional {sign t : Text} (signed : IsSign sign) (fractional : IsFractional t) :
    ∃ x, ∀ rest, EndsNumber rest → readNumber (sign ++ (t ++ rest)) = .ok (.float x,rest) := by
  obtain ⟨digits,point,power,some⟩ := fractional
  rename_i whole fraction exponent
  obtain ⟨x,noPower,taken⟩ := takeExponent_append power
  obtain ⟨negative,minus⟩ : ∃ negative, ∀ rest, splitSign (sign ++ (whole ++ rest)) = (negative,whole ++ rest) := by
    rcases signed with rfl | rfl
    · exact ⟨false,splitSign_digits digits.1⟩
    · exact ⟨true,fun rest => rfl⟩
  refine ⟨.ofDecimal negative (digitsValue (whole ++ fraction.drop 1)) (x.getD 0 - (fraction.drop 1).length),?_⟩
  intro rest ends
  have behind := power.endsFraction ends
  obtain ⟨points,noPoint⟩ := takeFraction_append point behind
  have first := takeWhole?_append digits (point.noDigit behind)
  have noInteger : ¬ (fraction.drop 1 = [] ∧ x = none) := by
    rw [noPoint,noPower]
    tauto
  unfold readNumber
  simp only [List.append_assoc,minus,first,points,taken rest ends,Bool.and_eq_true,List.isEmpty_iff,
    Option.isNone_iff_eq_none,noInteger,↓reduceIte]

/-- A number with a fraction or an exponent is read as one that is no integer. -/
theorem reads_fractional (room : Nat) {sign t : Text} (signed : IsSign sign) (fractional : IsFractional t) :
    ∃ x, Reads room (sign ++ t) (.float x) := by
  obtain ⟨x,run⟩ := readNumber_fractional signed fractional
  obtain ⟨digits,_,_,_⟩ := fractional
  refine ⟨x,reads_number signed digits.1 fun after ends => ?_⟩
  have number := run after ends
  rwa [List.append_assoc] at number

theorem isPrintable_digits {t : Text} (each : IsDigits t) : t.IsPrintable := by
  intro c member
  have digit := each.2 c member
  simp only [isDigit,Bool.and_eq_true,decide_eq_true_eq] at digit
  omega

theorem isPrintable_fractional {t : Text} (fractional : IsFractional t) : t.IsPrintable := by
  obtain ⟨digits,point,power,_⟩ := fractional
  rw [isPrintable_append,isPrintable_append]
  refine ⟨isPrintable_digits digits.1,?_,?_⟩
  · cases point with
    | none => exact isPrintable_nil
    | digits each => exact (isPrintable_cons _ _).mpr ⟨by decide,isPrintable_digits each⟩
  · cases power with
    | none => exact isPrintable_nil
    | digits signed each =>
      rw [isPrintable_cons,isPrintable_cons]
      exact ⟨by decide,by omega,isPrintable_digits each⟩

end Json

/-! ### Layouts -/

namespace Binary64
open Text Json

/-- A multiple that rounds to a positive number is positive. -/
theorem onGrid?_pos {m k : Nat} {e g : Int} (positive : 0 < m) (found : onGrid? m e g = some k) : 0 < k := by
  unfold onGrid? at found
  extract_lets binary decimal below above inside value low high at found
  have someBinary : 0 < binary := Nat.mul_pos (Nat.pow_pos (by decide)) (Nat.pow_pos (by decide))
  have someBelow : 0 < below := by
    simp only [below]
    split <;> omega
  have bottom : 0 < below * binary := Nat.mul_pos someBelow someBinary
  -- The interval of what rounds to the number begins above zero.
  have noZero : inside 0 = false := by
    simp only [inside,Nat.zero_mul]
    split <;> simp [Nat.not_le.mpr bottom]
  have someLow : inside low = true → 0 < low := by
    intro holds
    refine Nat.pos_of_ne_zero fun zero => ?_
    rw [zero,noZero] at holds
    cases holds
  split at found
  · rename_i both _
    rw [← Option.some.inj found]
    split
    · exact someLow both
    · exact Nat.succ_pos low
  · rename_i lower _
    exact Option.some.inj found ▸ someLow lower
  · exact Option.some.inj found ▸ Nat.succ_pos low
  · cases found

theorem dropZeros_pos (fuel : Nat) {n : Nat} (positive : 0 < n) (g : Int) : 0 < (dropZeros fuel n g).1 := by
  induction fuel generalizing n g with
  | zero => exact positive
  | succ fuel ih =>
    rw [dropZeros]
    split
    · exact ih (by omega) (g+1)
    · exact positive

/-- The shortest digits of a positive number are those of a positive one. -/
theorem shortest_pos {m : Nat} (positive : 0 < m) (e : Int) : 0 < (shortest m e).1 := by
  unfold shortest
  dsimp only
  split
  · rename_i k g found
    obtain ⟨n,_,here⟩ := List.exists_of_findSome?_eq_some found
    obtain ⟨_,grid,same⟩ := Option.map_eq_some_iff.mp here
    cases same
    exact dropZeros_pos 17 (onGrid?_pos positive grid) _
  · exact positive

theorem isExponent_exponentText (p : Int) : IsExponent (0x65 :: exponentText p) := by
  have digits := isDigits_ofNat p.natAbs
  unfold exponentText
  refine .digits (by split <;> simp) ?_
  split
  · exact ⟨by simp,List.forall_mem_cons.mpr ⟨rfl,digits.2⟩⟩
  · exact digits

theorem isDigit_of_mem_zeros {n c : Nat} (member : c ∈ repeated n 0x30) : isDigit c = true := by
  rw [List.eq_of_mem_replicate member]
  rfl

section

variable {c : Nat} {more : Text} (first : isDigit c = true) (noZero : c ≠ 0x30) (each : ∀ d ∈ more, isDigit d = true)
include first each

/-- Digits behind a point and zeros. -/
theorem isFractional_small (n : Nat) : IsFractional (("0." : Text) ++ repeated n 0x30 ++ c :: more) := by
  have digits : ∀ d ∈ repeated n 0x30 ++ c :: more, isDigit d = true :=
    List.forall_mem_append.mpr ⟨fun d => isDigit_of_mem_zeros,List.forall_mem_cons.mpr ⟨first,each⟩⟩
  have small := IsFractional.intro isWhole_zero (.digits ⟨by simp,digits⟩) .none (.inl (by simp))
  rw [List.append_nil] at small
  rwa [List.append_assoc]

include noZero

/-- Digits with zeros up to their point. -/
theorem isFractional_large (n : Nat) : IsFractional (c :: more ++ repeated n 0x30 ++ (".0" : Text)) := by
  have digits : ∀ d ∈ more ++ repeated n 0x30, isDigit d = true :=
    List.forall_mem_append.mpr ⟨each,fun d => isDigit_of_mem_zeros⟩
  simpa using IsFractional.intro (isWhole_cons first noZero digits) isFraction_zero .none (.inl (by decide))

/-- Digits with a point among them. -/
theorem isFractional_mixed {n : Nat} (among : n < more.length) :
    IsFractional ((c :: more).take (n+1) ++ 0x2E :: (c :: more).drop (n+1)) := by
  have whole := isWhole_cons first noZero fun d member => each d (List.mem_of_mem_take (i := n) member)
  have fraction : IsDigits (more.drop n) := by
    refine ⟨?_,fun d member => each d (List.mem_of_mem_drop member)⟩
    rw [ne_eq,List.drop_eq_nil_iff]
    omega
  simpa using IsFractional.intro whole (.digits fraction) .none (.inl (by simp))

end

/-- A digit with a fraction, or without one, and an exponent. -/
theorem isFractional_power {c : Nat} (first : isDigit c = true) (noZero : c ≠ 0x30) {fraction : Text}
    (point : IsFraction fraction) (p : Int) : IsFractional ([c] ++ fraction ++ 0x65 :: exponentText p) := by
  have whole : IsWhole [c] := isWhole_cons first noZero (by simp)
  have power := IsFractional.intro whole point (isExponent_exponentText p) (.inr (by simp))
  rwa [← List.append_assoc] at power

/-- The digits of a positive number are laid out with a fraction or an exponent. -/
theorem isFractional_place (style : Layout) {k : Nat} (positive : 0 < k) (g : Int) :
    IsFractional (style.place (ofNat k) g) := by
  have nonzero := head?_ofNat positive
  obtain ⟨c,more,digits,first⟩ := (isDigits_ofNat k).eq_cons
  have each : ∀ d ∈ more, isDigit d = true := fun d member =>
    (isDigits_ofNat k).2 d (digits ▸ List.mem_cons_of_mem c member)
  have noZero : c ≠ 0x30 := by simpa [digits] using nonzero
  rw [digits]
  unfold Layout.place
  extract_lets p fraction
  have leading : p = g + more.length := by
    simp only [p,List.length_cons]
    omega
  split
  · split
    · exact isFractional_large first noZero each g.toNat
    · split
      · have among : p.toNat < more.length := by omega
        have behind : (p+1).toNat = p.toNat + 1 := by omega
        rw [behind]
        exact isFractional_mixed first noZero each among
      · exact isFractional_small first each _
  · refine isFractional_power first noZero ?_ p
    simp only [fraction]
    split_ifs with single _
    · exact isFraction_zero
    · exact .none
    · exact .digits ⟨fun none => single (by simpa using none),each⟩

/-- A number is laid out as a number with a fraction or an exponent, behind its sign. -/
theorem text_finite (style : Layout) (negative : Bool) (m : Nat) (e : Int) :
    ∃ sign t, style.text (.finite negative m e) = sign ++ t ∧ IsSign sign ∧ IsFractional t := by
  have magnitude : IsFractional (if m = 0 then "0.0" else style.place (ofNat (shortest m e).1) (shortest m e).2) := by
    split
    · exact .intro isWhole_zero isFraction_zero .none (.inl (by decide))
    · exact isFractional_place style (shortest_pos (by omega) e) _
  cases negative with
  | false => exact ⟨[],_,rfl,.inl rfl,magnitude⟩
  | true => exact ⟨[0x2D],_,rfl,.inr rfl,magnitude⟩

end Binary64

namespace Json
open Binary64

/-- Whatever a number is, its text is read as a number that is no integer. -/
theorem reads_float (room : Nat) (x : Binary64) : ∃ y, Reads room (atom (.float x)) (.float y) := by
  cases x with
  | finite negative m e =>
    obtain ⟨sign,t,written,signed,fractional⟩ := text_finite numberLayout negative m e
    rw [atom,written]
    exact reads_fractional room signed fractional
  | infinity negative =>
    cases negative with
    | false => exact ⟨_,reads_word room ("Infinity",.float (.infinity false)) (by simp [words])⟩
    | true => exact ⟨_,reads_word room ("-Infinity",.float (.infinity true)) (by simp [words])⟩
  | nan => exact ⟨_,reads_word room ("NaN",.float .nan) (by simp [words])⟩

theorem isPrintable_float (x : Binary64) : (atom (.float x)).IsPrintable := by
  cases x with
  | finite negative m e =>
    obtain ⟨sign,t,written,signed,fractional⟩ := text_finite numberLayout negative m e
    rw [atom,written]
    refine (Text.isPrintable_append _ _).mpr ⟨?_,isPrintable_fractional fractional⟩
    rcases signed with rfl | rfl <;> decide
  | infinity negative => cases negative <;> decide
  | nan => decide

end Json

end ApiDocs
