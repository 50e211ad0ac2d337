import ApiDocs.Text.Utf8
/-!
Octets in one of the Unicode encodings.

The encoding is recognised from a byte order mark or, for a JSON text, from where its first octets
are zero.  Surrogates that stand alone are let through in each of them.
-/

namespace ApiDocs

/-- The Unicode encodings and, for those of wide units, which octet of a unit comes first. -/
inductive Encoding where
  | utf8
  | utf16 (bigEndian : Bool)
  | utf32 (bigEndian : Bool)
  deriving DecidableEq, Repr

namespace Encoding

/-- The byte order marks and what they show.  The one of four octets that begins like one of two
stands in front of it. -/
def marks : List (Bytes × Encoding) :=
  [([0x00,0x00,0xFE,0xFF],.utf32 true),([0xFF,0xFE,0x00,0x00],.utf32 false),
    ([0xFE,0xFF],.utf16 true),([0xFF,0xFE],.utf16 false),([0xEF,0xBB,0xBF],.utf8)]

def unmarked : Bytes → Encoding
  | a :: b :: c :: d :: _ =>
    if a = 0 then (if b = 0 then .utf32 true else .utf16 true)
    else if b = 0 then (if c = 0 ∧ d = 0 then .utf32 false else .utf16 false)
    else .utf8
  | [a,b] => if a = 0 then .utf16 true else if b = 0 then .utf16 false else .utf8
  | _ => .utf8

/-- The encoding of a JSON text and the length of its byte order mark. -/
def detect (b : Bytes) : Encoding × Nat :=
  match marks.find? fun (mark,_) => mark.isPrefixOf b with
  | some (mark,encoding) => (encoding,mark.length)
  | none => (unmarked b,0)

def units16 (bigEndian : Bool) : Bytes → Option (List Nat)
  | [] => some []
  | [_] => none
  | a :: b :: rest =>
    (units16 bigEndian rest).map fun units =>
      (if bigEndian then a.toNat * 0x100 + b.toNat else b.toNat * 0x100 + a.toNat) :: units

/-- Neighbouring halves of a pair are joined; other surrogates stand for themselves. -/
def joinPairs : List Nat → Text
  | [] => []
  | [a] => [a]
  | a :: b :: rest =>
    if 0xD800 ≤ a ∧ a ≤ 0xDBFF ∧ 0xDC00 ≤ b ∧ b ≤ 0xDFFF then
      (0x10000 + (a - 0xD800) * 0x400 + (b - 0xDC00)) :: joinPairs rest
    else a :: joinPairs (b :: rest)

/-- The four-octet units; `none` when octets are left over or a unit is no code point. -/
def units32 (bigEndian : Bool) : Bytes → Option Text
  | [] => some []
  | a :: b :: c :: d :: rest =>
    let n :=
      if bigEndian then ((a.toNat * 0x100 + b.toNat) * 0x100 + c.toNat) * 0x100 + d.toNat
      else ((d.toNat * 0x100 + c.toNat) * 0x100 + b.toNat) * 0x100 + a.toNat
    if n < 0x110000 then (units32 bigEndian rest).map (n :: ·) else none
  | _ => none

def decode? : Encoding → Bytes → Option Text
  | .utf8, b => (Utf8.decodeLenient b).toOption
  | .utf16 bigEndian, b => (units16 bigEndian b).map joinPairs
  | .utf32 bigEndian, b => units32 bigEndian b

/-- The text of octets whose encoding is recognised from the octets themselves. -/
def decodeDetected? (b : Bytes) : Option Text :=
  let (encoding,mark) := detect b
  encoding.decode? (b.drop mark)

end Encoding

end ApiDocs
