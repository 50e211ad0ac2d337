import ApiDocs.Value
import ApiDocs.Number.Shortest
/-!
Writing values as JSON texts.

Everything outside printable ASCII is escaped, so a written text is ASCII whatever the value holds.
`compact` writes a value on one line, `pretty` gives every item a line of its own.  The members of an
object are written in their order.
-/

namespace ApiDocs.Json

/-- Numbers are positional from `0.0001` up to, but not including, `10^16`. -/
def numberLayout : Binary64.Layout := ⟨-4,16,false,"NaN","Infinity"⟩

def unitEscape (unit : Nat) : Text := 0x5C :: 0x75 :: Text.hex false 4 unit

def escapePoint (c : Nat) : Text :=
  if c = 0x22 then [0x5C,0x22]
  else if c = 0x5C then [0x5C,0x5C]
  else if c = 0x0A then [0x5C,0x6E]
  else if c = 0x0D then [0x5C,0x72]
  else if c = 0x09 then [0x5C,0x74]
  else if c = 0x08 then [0x5C,0x62]
  else if c = 0x0C then [0x5C,0x66]
  else if 0x20 ≤ c ∧ c ≤ 0x7E then [c]
  else if c < 0x10000 then unitEscape c
  else
    unitEscape (0xD800 + (c - 0x10000) / 0x400) ++ unitEscape (0xDC00 + (c - 0x10000) % 0x400)

def quote (t : Text) : Text := 0x22 :: (t.flatMap escapePoint ++ [0x22])

/-- The text of a value that holds no others; a foreign value has none of its own and is written as
`null`. -/
def atom : Value → Text
  | .bool true => "true"
  | .bool false => "false"
  | .int n => Text.ofInt n
  | .float x => numberLayout.text x
  | .str t => quote t
  | _ => "null"

mutual

/-- A value on one line: a blank follows every comma and colon. -/
def compact : Value → Text
  | .arr items => 0x5B :: (Text.join ", " (compactItems items) ++ [0x5D])
  | .obj members => 0x7B :: (Text.join ", " (compactMembers members) ++ [0x7D])
  | v => atom v

def compactItems : List Value → List Text
  | [] => []
  | v :: rest => compact v :: compactItems rest

def compactMembers : List (Text × Value) → List Text
  | [] => []
  | (name,v) :: rest => (quote name ++ (": " : Text) ++ compact v) :: compactMembers rest

end

def newline (level : Nat) : Text := 0x0A :: Text.repeated (2 * level) 0x20

/-- Items between brackets, each on its own line, or nothing between them. -/
def enclose (level : Nat) (opening closing : Nat) (items : List Text) : Text :=
  if items.isEmpty then [opening,closing]
  else
    opening :: newline (level + 1) ++ Text.join (0x2C :: newline (level + 1)) items ++
      newline level ++ [closing]

mutual

/-- A value whose first line is already indented by `level` steps. -/
def prettyAt (level : Nat) : Value → Text
  | .arr items => enclose level 0x5B 0x5D (prettyItems (level + 1) items)
  | .obj members => enclose level 0x7B 0x7D (prettyMembers (level + 1) members)
  | v => atom v

def prettyItems (level : Nat) : List Value → List Text
  | [] => []
  | v :: rest => prettyAt level v :: prettyItems level rest

def prettyMembers (level : Nat) : List (Text × Value) → List Text
  | [] => []
  | (name,v) :: rest =>
    (quote name ++ (": " : Text) ++ prettyAt level v) :: prettyMembers level rest

end

/-- A value with two blanks of indentation for each level. -/
def pretty (v : Value) : Text := prettyAt 0 v

mutual

/-- The members of every object are sorted by name. -/
def sortMembers : Value → Value
  | .arr items => .arr (sortItems items)
  | .obj members => .obj ((sortInside members).mergeSort fun a b => Text.le a.1 b.1)
  | v => v

def sortItems : List Value → List Value
  | [] => []
  | v :: rest => sortMembers v :: sortItems rest

def sortInside : List (Text × Value) → List (Text × Value)
  | [] => []
  | (name,v) :: rest => (name,sortMembers v) :: sortInside rest

end

end ApiDocs.Json
