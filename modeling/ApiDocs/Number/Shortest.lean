import ApiDocs.Number.Binary64
/-!
The shortest decimal text of a double precision number.

The text has the fewest digits that read back as the number and, among those, the digits nearest to
it.  On the decimal grid of each digit count only the two neighbours of the number can lie in the
interval of values that round to it, so these two are tested, from one digit to seventeen.
-/

namespace ApiDocs.Binary64

/-- `10^p ≤ m · 2^e`. -/
private def powerFits (m : Nat) (e p : Int) : Bool :=
  Nat.pow 10 p.toNat * Nat.pow 2 (-e).toNat ≤ m * Nat.pow 2 e.toNat * Nat.pow 10 (-p).toNat

/-- The exponent of the leading decimal digit of `m · 2^e`, for a positive mantissa. -/
def leadingPower (m : Nat) (e : Int) : Int :=
  let guess := Int.fdiv ((m.log2 + e) * 30103) 100000
  if powerFits m e (guess + 1) then guess + 1 else if powerFits m e guess then guess else guess - 1

/-- The multiple of `10^g` next to `m · 2^e` that rounds to it, the nearer of two. -/
def onGrid? (m : Nat) (e g : Int) : Option Nat :=
  -- Four times the mantissa makes the ends of the rounding interval whole numbers.
  let binary := Nat.pow 2 (e - 2).toNat * Nat.pow 10 (-g).toNat
  let decimal := Nat.pow 10 g.toNat * Nat.pow 2 (2 - e).toNat
  let below := if m = Nat.pow 2 52 ∧ minExponent < e then 4 * m - 1 else 4 * m - 2
  let above := 4 * m + 2
  let inside (k : Nat) : Bool :=
    if m % 2 = 0 then below * binary ≤ k * decimal && k * decimal ≤ above * binary
    else below * binary < k * decimal && k * decimal < above * binary
  let value := 4 * m * binary
  let low := value / decimal
  let high := low + 1
  let fromLow := value - low * decimal
  let fromHigh := high * decimal - value
  match inside low, inside high with
  | true, true =>
    some (if fromLow < fromHigh || (fromLow == fromHigh && low % 2 == 0) then low else high)
  | true, false => some low
  | false, true => some high
  | false, false => none

/-- Zeros at the end of the digits are moved into the exponent. -/
def dropZeros : (fuel : Nat) → Nat → Int → Nat × Int
  | 0, n, g => (n,g)
  | fuel + 1, n, g => if n % 10 = 0 then dropZeros fuel (n / 10) (g + 1) else (n,g)

/-- Digits and exponent of the shortest decimal of `m · 2^e`, for a positive mantissa. -/
def shortest (m : Nat) (e : Int) : Nat × Int :=
  let p := leadingPower m e
  let found := (List.range 17).findSome? fun (n : Nat) =>
    (onGrid? m e (p - n)).map fun k => (k,p - n)
  match found with
  | some (k,g) => dropZeros 17 k g
  | none => (m,e)

structure Layout where
  /-- The leading digit's exponents from here on are written without exponent, -/
  positionalFrom : Int
  /-- up to here, exclusively. -/
  positionalTo : Int
  /-- A point stands in front of the exponent even after a single digit. -/
  pointBeforeExponent : Bool
  nan : Text
  infinity : Text
  deriving Repr

def exponentText (p : Int) : Text :=
  let digits := Text.ofNat p.natAbs
  (if p < 0 then 0x2D else 0x2B) :: (if digits.length < 2 then 0x30 :: digits else digits)

/-- The text of `digits · 10^g`, a point always among them or an exponent after them. -/
def Layout.place (style : Layout) (digits : Text) (g : Int) : Text :=
  let p := g + digits.length - 1
  if style.positionalFrom ≤ p ∧ p < style.positionalTo then
    if 0 ≤ g then digits ++ Text.repeated g.toNat 0x30 ++ (".0" : Text)
    else if 0 ≤ p then digits.take (p + 1).toNat ++ 0x2E :: digits.drop (p + 1).toNat
    else ("0." : Text) ++ Text.repeated (-p - 1).toNat 0x30 ++ digits
  else
    let fraction : Text :=
      if digits.length = 1 then (if style.pointBeforeExponent then ".0" else "")
      else 0x2E :: digits.drop 1
    digits.take 1 ++ fraction ++ 0x65 :: exponentText p

def Layout.text (style : Layout) : Binary64 → Text
  | .nan => style.nan
  | .infinity negative => if negative then 0x2D :: style.infinity else style.infinity
  | .finite negative m e =>
    let magnitude : Text :=
      if m = 0 then "0.0"
      else
        let (k,g) := shortest m e
        style.place (Text.ofNat k) g
    if negative then 0x2D :: magnitude else magnitude

end ApiDocs.Binary64
