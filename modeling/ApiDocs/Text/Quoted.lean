import ApiDocs.Text.Printable
import ApiDocs.Value
import ApiDocs.Number.Shortest
/-!
Texts and values as they are shown in messages.

A text is shown in single quotes, or in double quotes when it holds a single quote and no double
one; what is not printable is escaped by its number.
-/

namespace ApiDocs

namespace Text

def quotedPoint (mark c : Nat) : Text :=
  if c = mark ∨ c = 0x5C then [0x5C,c]
  else if c = 0x09 then [0x5C,0x74]
  else if c = 0x0A then [0x5C,0x6E]
  else if c = 0x0D then [0x5C,0x72]
  else if isPrintable c then [c]
  else if c < 0x100 then 0x5C :: 0x78 :: hex false 2 c
  else if c < 0x10000 then 0x5C :: 0x75 :: hex false 4 c
  else 0x5C :: 0x55 :: hex false 8 c

def quoted (t : Text) : Text :=
  let mark := if t.contains 0x27 && !t.contains 0x22 then 0x22 else 0x27
  mark :: (t.flatMap (quotedPoint mark) ++ [mark])

/-- Octets between quotes, those beyond ASCII by their numbers. -/
def quotedOctets (b : Bytes) : Text :=
  let mark := if b.contains 0x27 && !b.contains 0x22 then 0x22 else 0x27
  mark :: (b.flatMap (fun x =>
    if x < 0x80 then quotedPoint mark x.toNat else 0x5C :: 0x78 :: hex false 2 x.toNat) ++ [mark])

end Text

namespace Value

/-- Numbers are positional from `0.0001` up to, but not including, `10^16`. -/
def numberLayout : Binary64.Layout := ⟨-4,16,false,"nan","inf"⟩

mutual

/-- A value as it is shown in a message. -/
def shown : Value → Text
  | .null => "None"
  | .bool true => "True"
  | .bool false => "False"
  | .int n => Text.ofInt n
  | .float x => numberLayout.text x
  | .str t => t.quoted
  | .arr items => 0x5B :: (Text.join ", " (shownItems items) ++ [0x5D])
  | .obj members => 0x7B :: (Text.join ", " (shownMembers members) ++ [0x7D])
  | .foreign (.bytes octets) => 0x62 :: Text.quotedOctets octets
  | .foreign .emptyTuple => "()"
  | .foreign .emptySet => "set()"
  | .foreign .object => "<object>"
  | .foreign .imaginary => "1j"

def shownItems : List Value → List Text
  | [] => []
  | v :: rest => shown v :: shownItems rest

def shownMembers : List (Text × Value) → List Text
  | [] => []
  | (name,v) :: rest => (name.quoted ++ (": " : Text) ++ shown v) :: shownMembers rest

end

/-- A value as it stands in running text: texts are not quoted. -/
def plain : Value → Text
  | .str t => t
  | v => shown v

end Value

end ApiDocs
