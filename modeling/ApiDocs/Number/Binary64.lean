import ApiDocs.Text.Basic
/-!
Double precision numbers as exact values.

A finite number is a mantissa times a power of two, in the one form that the format has for it; no
rounding happens but in `ofRatio`, which rounds an exact quotient to the nearest number, ties to the
even mantissa.
-/

namespace ApiDocs

/-- A double precision number: `finite negative m e` is `±m · 2^e`, where `m < 2^53`, `-1074 ≤ e`, and
`m` is at least `2^52` unless `e` is the least exponent. -/
inductive Binary64 where
  | finite (negative : Bool) (mantissa : Nat) (exponent : Int)
  | infinity (negative : Bool)
  | nan
  deriving DecidableEq, Repr

namespace Binary64

def minExponent : Int := -1074

def maxExponent : Int := 971

def zero (negative : Bool) : Binary64 := .finite negative 0 minExponent

/-- The quotient rounded to the nearest natural number, a tie to the even one. -/
def roundHalfEven (num den : Nat) : Nat :=
  let q := num / den
  let r := num % den
  if 2 * r < den then q else if den < 2 * r then q + 1 else q + q % 2

/-- `num / den` divided by `2^e` and rounded to the nearest natural number. -/
def mantissaAt (num den : Nat) (e : Int) : Nat :=
  if 0 ≤ e then roundHalfEven num (den * Nat.pow 2 e.toNat)
  else roundHalfEven (num * Nat.pow 2 (-e).toNat) den

/-- The number nearest to `±num / den`, for a positive denominator. -/
def ofRatio (negative : Bool) (num den : Nat) : Binary64 :=
  if num = 0 then zero negative
  else
    let guess : Int := (num.log2 : Int) - den.log2
    let reached : Bool :=
      if 0 ≤ guess then den * Nat.pow 2 guess.toNat ≤ num else den ≤ num * Nat.pow 2 (-guess).toNat
    let e := max ((if reached then guess else guess - 1) - 52) minExponent
    let m := mantissaAt num den e
    let (m,e) := if m = Nat.pow 2 53 then (Nat.pow 2 52,e + 1) else (m,e)
    if maxExponent < e then .infinity negative else .finite negative m e

/-- The number nearest to `±n · 10^exponent`.  Powers far outside the range are not computed. -/
def ofDecimal (negative : Bool) (n : Nat) (exponent : Int) : Binary64 :=
  let magnitude : Int := (Nat.toDigits 10 n).length + exponent
  if n = 0 then zero negative
  else if 310 < magnitude then .infinity negative
  else if magnitude < -326 then zero negative
  else if 0 ≤ exponent then ofRatio negative (n * Nat.pow 10 exponent.toNat) 1
  else ofRatio negative n (Nat.pow 10 (-exponent).toNat)

/-- The integer nearest to the number on the side of zero; `none` for infinities and NaN. -/
def truncate? : Binary64 → Option Int
  | .finite negative m e =>
    let n : Nat := if 0 ≤ e then m * Nat.pow 2 e.toNat else m / Nat.pow 2 (-e).toNat
    some (if negative then -n else n)
  | _ => none

def toInt? : Binary64 → Option Int
  | .finite negative m e =>
    if 0 ≤ e ∨ m % Nat.pow 2 (-e).toNat = 0 then truncate? (.finite negative m e) else none
  | _ => none

def isNonzero : Binary64 → Bool
  | .finite _ m _ => m ≠ 0
  | _ => true

end Binary64

end ApiDocs
