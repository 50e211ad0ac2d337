/-!
Text as a list of Unicode code points.

JSON escapes can name a surrogate that stands alone, and such a text is stored, compared and
printed like any other, so code points are not restricted to scalar values.  `IsScalar` marks the
ones that every encoding can carry.
-/

namespace ApiDocs

/-- A text is the list of its code points, surrogates included. -/
abbrev Text := List Nat

abbrev Bytes := List UInt8

/-- The code points reserved for UTF-16 pairs. -/
def isSurrogate (c : Nat) : Bool := 0xD800 ≤ c && c ≤ 0xDFFF

/-- The code points that a Unicode encoding can carry. -/
def isScalar (c : Nat) : Bool := c < 0x110000 && !isSurrogate c

namespace Text

def ofString (s : String) : Text := s.toList.map Char.toNat

instance : Coe String Text := ⟨ofString⟩

/-- The text holds no surrogate and nothing beyond the last code point. -/
def IsScalar (t : Text) : Prop := ∀ c ∈ t, isScalar c = true

instance (t : Text) : Decidable t.IsScalar := inferInstanceAs (Decidable (∀ c ∈ t, _))

def startsWith (t head : Text) : Bool := head.isPrefixOf t

def endsWith (t tail : Text) : Bool := tail.isSuffixOf t

/-- The parts between occurrences of `sep`, one more than the number of separators. -/
def splitOn (sep : Nat) : Text → List Text
  | [] => [[]]
  | c :: rest =>
    if c = sep then [] :: splitOn sep rest
    else match splitOn sep rest with
      | [] => [[c]]
      | part :: parts => (c :: part) :: parts

/-- The parts in order with `sep` between neighbours. -/
def join (sep : Text) (parts : List Text) : Text := sep.intercalate parts

def substitute (c : Nat) (value : Text) (t : Text) : Text :=
  t.flatMap fun x => if x = c then value else [x]

def repeated (n : Nat) (c : Nat) : Text := List.replicate n c

/-- Blanks are appended until the text has at least `width` code points. -/
def padRight (width : Nat) (t : Text) : Text := t ++ repeated (width - t.length) 0x20

def isDigit (c : Nat) : Bool := 0x30 ≤ c && c ≤ 0x39

def lowerAscii (t : Text) : Text := t.map fun c => if 0x41 ≤ c ∧ c ≤ 0x5A then c + 0x20 else c

def hexValue? (c : Nat) : Option Nat :=
  if 0x30 ≤ c && c ≤ 0x39 then some (c - 0x30)
  else if 0x61 ≤ c && c ≤ 0x66 then some (c - 0x57)
  else if 0x41 ≤ c && c ≤ 0x46 then some (c - 0x37)
  else none

def ofNat (n : Nat) : Text := (Nat.toDigits 10 n).map Char.toNat

def ofInt : Int → Text
  | .ofNat n => ofNat n
  | .negSucc n => 0x2D :: ofNat (n + 1)

/-- Exactly `width` hexadecimal digits; `upper` chooses `A` to `F`. -/
def hex (upper : Bool) : (width : Nat) → Nat → Text
  | 0, _ => []
  | width + 1, n =>
    let d := n % 16
    hex upper width (n / 16) ++ [if d < 10 then 0x30 + d else (if upper then 0x37 else 0x57) + d]

def digitsValue (t : Text) : Nat := t.foldl (fun n c => 10 * n + (c - 0x30)) 0

/-- The order of texts: code point by code point, a proper beginning first. -/
def le (a b : Text) : Bool := !(List.lex b a)

end Text

end ApiDocs
