import ApiDocs.Source.Tree
import ApiDocs.Text.CharacterName
/-!
String literals: their marks, their quotes and their escapes.
-/

namespace ApiDocs.Source

/-- A string literal: what its letters say and what stands between its quotes. -/
structure Literal where
  isOctets : Bool
  isRaw : Bool
  isFormatted : Bool
  body : Text
  deriving Repr

namespace Literal

def ofToken (t : Text) : Literal :=
  let letters := t.takeWhile fun c => c != 0x27 && c != 0x22
  let quoted := t.drop letters.length
  let has (c : Nat) : Bool := letters.contains c || letters.contains (c - 0x20)
  let size := match quoted with
    | a :: b :: c :: _ => if a = b ∧ b = c ∧ 6 ≤ quoted.length then 3 else 1
    | _ => 1
  ⟨has 0x62,has 0x72,has 0x66,(quoted.drop size).take (quoted.length - 2 * size)⟩

end Literal

/-- What is wrong with an escape: the wording and what follows the place where it is found out. -/
abbrev EscapeFault := Text × Text

/-- The code point that so many hexadecimal digits write, and what follows them; `wording` is for when there
are fewer. -/
def hexEscape (wording : Text) (width : Nat) (t : Text) : Except EscapeFault (Text × Text) :=
  let digits := (t.take width).takeWhile fun c => (Text.hexValue? c).isSome
  let n := digits.foldl (fun n c => 16 * n + (Text.hexValue? c).getD 0) 0
  if digits.length < width then .error (wording,t.drop digits.length)
  else if n < 0x110000 then .ok ([n],t.drop width)
  else .error ("illegal Unicode character",t.drop width)

def nameEscape (t : Text) : Except EscapeFault (Text × Text) :=
  let malformed : Text := "malformed \\N character escape"
  match t with
  | 0x7B :: after =>
    let name := after.takeWhile (· ≠ 0x7D)
    match after.drop name.length with
    | [] => .error (malformed,[])
    | brace :: rest =>
      if name.isEmpty then .error (malformed,brace :: rest)
      else match characterNamed? name with
        | some n => .ok ([n],rest)
        | none => .error ("unknown Unicode character name",rest)
  | t => .error (malformed,t)

def isOctal (c : Nat) : Bool := 0x30 ≤ c && c ≤ 0x37

def letterEscape? (c : Nat) : Option Nat :=
  if c = 0x5C ∨ c = 0x27 ∨ c = 0x22 then some c
  else if c = 0x61 then some 7
  else if c = 0x62 then some 8
  else if c = 0x66 then some 12
  else if c = 0x6E then some 10
  else if c = 0x72 then some 13
  else if c = 0x74 then some 9
  else if c = 0x76 then some 11
  else none

/-- The escape after a backslash: the code points that it writes and what follows it.  A backslash in front
of anything else stands for itself. -/
def readEscape (t : Text) : Except EscapeFault (Text × Text) :=
  match t with
  | [] => .ok ([0x5C],[])
  | c :: rest =>
    if c = 0x0A then .ok ([],rest)
    else if isOctal c then
      let digits := (t.take 3).takeWhile isOctal
      .ok ([digits.foldl (fun n d => 8 * n + (d - 0x30)) 0],t.drop digits.length)
    else if c = 0x78 then hexEscape "truncated \\xXX escape" 2 rest
    else if c = 0x75 then hexEscape "truncated \\uXXXX escape" 4 rest
    else if c = 0x55 then hexEscape "truncated \\UXXXXXXXX escape" 8 rest
    else if c = 0x4E then nameEscape rest
    else match letterEscape? c with
      | some n => .ok ([n],rest)
      | none => .ok ([0x5C,c],rest)

/-- The text that escapes and other code points write; else the wording for the first escape that cannot be
read, with what follows its backslash and what follows the fault.  The fuel exceeds the length of the
text. -/
def unescape (fuel : Nat) (t : Text) : Except (Text × Text × Text) Text :=
  match fuel with
  | 0 => .ok t
  | fuel + 1 =>
    match t with
    | [] => .ok []
    | 0x5C :: rest =>
      match readEscape rest with
      | .ok (read,rest) => (unescape fuel rest).map (read ++ ·)
      | .error (wording,stop) => .error (wording,rest,stop)
    | c :: rest => (unescape fuel rest).map (c :: ·)

/-- How many signs each code point takes where escapes are read: those beyond ASCII are escaped themselves,
and so is a backslash in front of them or at the end. -/
def escapeWidths : Text → List Nat
  | [] => []
  | [0x5C] => [6]
  | 0x5C :: c :: rest => if 0x80 ≤ c then 6 :: 10 :: escapeWidths rest else 1 :: 1 :: escapeWidths rest
  | c :: rest => (if 0x80 ≤ c then 10 else 1) :: escapeWidths rest

/-- The text of a literal's body, escapes read unless it is raw; else the wording for what is wrong. -/
def decodeBody (isRaw : Bool) (body : Text) : Except Text Text :=
  if isRaw then .ok body
  else (unescape (body.length + 1) body).mapError fun (wording,start,stop) =>
    let position (rest : Text) : Nat := ((escapeWidths body).take (body.length - rest.length)).foldl (· + ·) 0
    ("(unicode error) 'unicodeescape' codec can't decode bytes in position " : Text) ++
      Text.ofNat (position start - 1) ++ 0x2D :: Text.ofNat (position stop - 1) ++ (": " : Text) ++ wording

/-- Where a hexadecimal escape of an octet is not complete. -/
def octetFault? (position : Nat) : Text → Option Nat
  | 0x5C :: 0x78 :: a :: b :: rest =>
    if (Text.hexValue? a).isSome && (Text.hexValue? b).isSome then octetFault? (position + 4) rest
    else some position
  | 0x5C :: 0x78 :: _ => some position
  | 0x5C :: _ :: rest => octetFault? (position + 2) rest
  | _ :: rest => octetFault? (position + 1) rest
  | [] => none

/-- The wording for what is wrong with a body made of octets. -/
def octetsFault? (isRaw : Bool) (body : Text) : Option Text :=
  if isRaw then none
  else (octetFault? 0 body).map fun position =>
    ("(value error) invalid \\x escape at position " : Text) ++ Text.ofNat position

/-! ## Fields in formatted strings -/

/-- What a formatted string consists of, up to where it is faulty: texts and expressions, each with the
number of fields around it, an expression also with the number of lines that end in front of it. -/
inductive Piece where
  | text (level : Nat)
  | expression (level : Nat) (source : Text) (lines : Nat)
  | fault (wording : Text)
  deriving Repr

def Piece.withText (level : Nat) (t : Text) (pieces : List Piece) : List Piece :=
  if t.isEmpty then pieces else .text level :: pieces

def braceExpected : Text := "f-string: expecting '\x7d'"

/-- The deepest nesting of brackets in an expression. -/
def maxFieldBrackets : Nat := 200

/-- Where the text of a formatted string stops: at a brace that is written twice, at a single brace or
the end, or at a fault. -/
inductive TextStop where
  | doubled (rest : Text)
  | at (rest : Text)
  | fault

/-- The text at the beginning, reversed, and where it stops; only outside of fields are braces written
twice. -/
def readText (fuel : Nat) (isRaw outside : Bool) (read : Text) (t : Text) : Text × TextStop :=
  match fuel with
  | 0 => (read,.fault)
  | fuel + 1 =>
    match t with
    | [] => (read,.at [])
    | c :: rest =>
      if c = 0x5C ∧ !isRaw ∧ !rest.isEmpty then
        match rest with
        | 0x4E :: 0x7B :: after =>
          let name := after.takeWhile (· ≠ 0x7D)
          let closed := name ++ (after.drop name.length).take 1
          readText fuel isRaw outside (closed.reverse ++ 0x7B :: 0x4E :: c :: read)
            (after.drop closed.length)
        | 0x4E :: d :: after => readText fuel isRaw outside (d :: 0x4E :: c :: read) after
        | d :: after =>
          if d = 0x7B ∨ d = 0x7D then brace fuel isRaw outside (c :: read) d after
          else readText fuel isRaw outside (d :: c :: read) after
        | [] => (c :: read,.at [])
      else if c = 0x7B ∨ c = 0x7D then brace fuel isRaw outside read c rest
      else readText fuel isRaw outside (c :: read) rest
where
  /-- A brace `c` was read. -/
  brace (_ : Nat) (_ outside : Bool) (read : Text) (c : Nat) (rest : Text) : Text × TextStop :=
    if outside && rest.head? == some c then (c :: read,.doubled (rest.drop 1))
    else if outside && c == 0x7D then (read,.fault)
    else (read,.at (c :: rest))

def unmatchedInField (bracket : Nat) : Text := ("f-string: unmatched '" : Text) ++ bracket :: ("'" : Text)

def mismatchedInField (bracket opening : Nat) : Text :=
  ("f-string: closing parenthesis '" : Text) ++ bracket ::
    ("' does not match opening parenthesis '" : Text) ++ opening :: ("'" : Text)

/-- The expression at the beginning of a field, reversed, and the rest from the sign that ends it, else the
wording for what is wrong; `quote` is the open quote with its size, `opened` are the open brackets. -/
def readField (fuel : Nat) (quote : Option (Nat × Nat)) (opened : List Nat) (read : Text) (t : Text) :
    Except Text (Text × Text) :=
  match fuel with
  | 0 => .error braceExpected
  | fuel + 1 =>
    match t with
    | [] =>
      if quote.isSome then .error "f-string: unterminated string"
      else match opened with
        | bracket :: _ => .error (unmatchedInField bracket)
        | [] => .ok (read,[])
    | c :: rest =>
      if c = 0x5C then .error "f-string expression part cannot include a backslash"
      else match quote with
        | some (q,size) =>
          if c = q then
            if size = 1 then readField fuel none opened (c :: read) rest
            else match rest with
              | a :: b :: after =>
                if a = q ∧ b = q then readField fuel none opened (b :: a :: c :: read) after
                else readField fuel quote opened (c :: read) rest
              | _ => readField fuel quote opened (c :: read) rest
          else readField fuel quote opened (c :: read) rest
        | none =>
          if c = 0x27 ∨ c = 0x22 then
            match rest with
            | a :: b :: after =>
              if a = c ∧ b = c then readField fuel (some (c,3)) opened (b :: a :: c :: read) after
              else readField fuel (some (c,1)) opened (c :: read) rest
            | _ => readField fuel (some (c,1)) opened (c :: read) rest
          else if c = 0x28 ∨ c = 0x5B ∨ c = 0x7B then
            if maxFieldBrackets ≤ opened.length then .error "f-string: too many nested parenthesis"
            else readField fuel none (c :: opened) (c :: read) rest
          else if c = 0x23 then .error "f-string expression part cannot include '#'"
          else if opened.isEmpty && [0x21,0x3A,0x7D,0x3D,0x3C,0x3E].contains c then
            match rest with
            | 0x3D :: after =>
              if c = 0x3A ∨ c = 0x7D then .ok (read,t)
              else readField fuel none opened (0x3D :: c :: read) after
            | _ =>
              if c = 0x3C ∨ c = 0x3E then readField fuel none opened (c :: read) rest
              else .ok (read,t)
          else if c = 0x29 ∨ c = 0x5D ∨ c = 0x7D then
            match opened with
            | [] => .error (unmatchedInField c)
            | o :: outer =>
              if c = (if o = 0x28 then 0x29 else o + 2) then readField fuel none outer (c :: read) rest
              else .error (mismatchedInField c o)
          else readField fuel none opened (c :: read) rest

/-- The blanks that may stand alone in a field. -/
def isFieldBlank (c : Nat) : Bool := c == 0x20 || c == 0x09 || c == 0x0A || c == 0x0C

/-- The blanks after a sign of equality. -/
def isAsciiBlank (c : Nat) : Bool := c == 0x20 || (9 ≤ c && c ≤ 13)

/-- What follows the conversion of a field, if it has one: `!` and one of three letters. -/
def conversionTail (t : Text) : Except Text Text :=
  match t with
  | [0x21] => .error braceExpected
  | 0x21 :: c :: after =>
    if c = 0x73 ∨ c = 0x72 ∨ c = 0x61 then .ok after
    else .error "f-string: invalid conversion character: expected 's', 'r', or 'a'"
  | t => .ok t

def expressionRequired (sign : Nat) : Text :=
  if sign = 0x7D then "f-string: empty expression not allowed"
  else ("f-string: expression required before '" : Text) ++ sign :: ("'" : Text)

def lineEnds (t : Text) : Nat := t.count 0x0A

mutual

/-- The pieces of a formatted string or of the format of a field, in order after those that were read
before (reversed), and the rest, which begins with the brace that ends a format.  `level` is the number
of fields around, `lines` the number of lines that end in front. -/
def readPieces (fuel : Nat) (isRaw : Bool) (level lines : Nat) (pieces : List Piece) (t : Text) :
    List Piece × Option (Text × Nat) :=
  match fuel with
  | 0 => (.fault braceExpected :: pieces,none)
  | fuel + 1 =>
    match readText (t.length + 1) isRaw (level = 0) [] t with
    | (_,.fault) => (.fault "f-string: single '\x7d' is not allowed" :: pieces,none)
    | (read,.doubled rest) =>
      match decodeBody isRaw read.reverse with
      | .error wording => (.fault wording :: pieces,none)
      | .ok text => readPieces fuel isRaw level (lines + lineEnds read) (Piece.withText level text pieces) rest
    | (read,.at rest) =>
      let lines := lines + lineEnds read
      match decodeBody isRaw read.reverse with
      | .error wording => (.fault wording :: pieces,none)
      | .ok text =>
        let pieces := Piece.withText level text pieces
        match rest with
        | 0x7B :: rest =>
          match readPiece fuel isRaw level lines pieces rest with
          | (pieces,none) => (pieces,none)
          | (pieces,some (rest,lines)) => readPieces fuel isRaw level lines pieces rest
        | [] => if level = 0 then (pieces,some ([],lines)) else (.fault braceExpected :: pieces,none)
        | rest => (pieces,some (rest,lines))

/-- A field after its opening brace: an expression, and maybe a sign of equality, a conversion and a
format. -/
def readPiece (fuel : Nat) (isRaw : Bool) (level lines : Nat) (pieces : List Piece) (t : Text) :
    List Piece × Option (Text × Nat) :=
  match fuel with
  | 0 => (.fault braceExpected :: pieces,none)
  | fuel + 1 =>
    if 2 ≤ level then (.fault "f-string: expressions nested too deeply" :: pieces,none)
    else match readField (t.length + 1) none [] [] t with
      | .error wording => (.fault wording :: pieces,none)
      | .ok (_,[]) => (.fault braceExpected :: pieces,none)
      | .ok (read,sign :: after) =>
        if read.all isFieldBlank then (.fault (expressionRequired sign) :: pieces,none)
        else
          let pieces := .expression level read.reverse lines :: pieces
          let inside := lines + lineEnds read
          let (rest,inside) :=
            if sign = 0x3D then
              let blanks := after.takeWhile isAsciiBlank
              (after.drop blanks.length,inside + lineEnds blanks)
            else (sign :: after,inside)
          match conversionTail rest with
          | .error wording => (.fault wording :: pieces,none)
          | .ok (0x7D :: rest) => (pieces,some (rest,inside))
          | .ok (0x3A :: rest) =>
            match readPieces fuel isRaw (level + 1) inside pieces rest with
            | (pieces,some (0x7D :: rest,lines)) => (pieces,some (rest,lines))
            | (pieces,none) => (pieces,none)
            | (pieces,some _) => (.fault braceExpected :: pieces,none)
          | .ok _ => (.fault braceExpected :: pieces,none)

end

def Literal.pieces (l : Literal) : List Piece :=
  (readPieces (2 * l.body.length + 2) l.isRaw 0 0 [] l.body).1.reverse

/-! ## Values -/

/-- What a string literal is, as far as it is looked at. -/
inductive StringValue where
  | text (value : Text)
  | octets
  | formatted (levels : Nat)
  deriving DecidableEq, Repr

namespace StringValue

def text? : StringValue → Option Text
  | text value => some value
  | _ => none

def levels : StringValue → Nat
  | text value => if value.isEmpty then 1 else 2
  | octets => 1
  | formatted levels => levels

/-- The label of literals in a row. -/
def label (values : List StringValue) : Label :=
  match values.mapM text? with
  | some texts => .text texts.flatten
  | none => if values.contains octets then .octets else .formatted ((values.map levels).foldl max 1)

end StringValue

end ApiDocs.Source
