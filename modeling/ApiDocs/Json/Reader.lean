import ApiDocs.Interpreter
import ApiDocs.Value
import ApiDocs.Text.Encoding
/-!
Reading JSON texts.

The reader takes the JSON grammar and, beyond it, the number words `NaN`, `Infinity` and `-Infinity`.
A name that an object repeats keeps its first place and gets its last value.  A refusal tells which
part of the grammar was expected and where; integers that are too long and arrays and objects that
are nested too deeply are refused for reasons of their own.
-/

namespace ApiDocs.Json

inductive Fault where
  | byteOrderMark
  | expectedValue
  | expectedName
  | expectedColon
  | expectedComma
  | unterminatedString
  | controlCharacter
  | invalidEscape
  | invalidUnicodeEscape
  | extraData
  deriving DecidableEq, Repr

/-- Why a text cannot be read: a fault at an offset of the text, an integer with too many digits, or
containers nested too deeply. -/
inductive ReadError where
  | malformed (fault : Fault) (offset : Nat)
  | integerTooLong (digits : Nat)
  | tooDeep
  deriving DecidableEq, Repr

def maxDigits : Nat := 4300

/-- The greatest number of containers around a value, each of which takes a frame. -/
def maxDepth : Nat := Interpreter.freeFrames

/-- Why reading stops: a fault where a given number of code points remain, or another reason. -/
inductive Stop where
  | fault (fault : Fault) (remaining : Nat)
  | integerTooLong (digits : Nat)
  | tooDeep
  deriving DecidableEq, Repr

def isSpace (c : Nat) : Bool := c == 0x20 || c == 0x09 || c == 0x0A || c == 0x0D

def skip (t : Text) : Text := t.dropWhile isSpace

def escaped? (c : Nat) : Option Nat :=
  if c = 0x22 ∨ c = 0x5C ∨ c = 0x2F then some c
  else if c = 0x62 then some 0x08
  else if c = 0x66 then some 0x0C
  else if c = 0x6E then some 0x0A
  else if c = 0x72 then some 0x0D
  else if c = 0x74 then some 0x09
  else none

def hexFour? (a b c d : Nat) : Option Nat := do
  let a ← Text.hexValue? a
  let b ← Text.hexValue? b
  let c ← Text.hexValue? c
  let d ← Text.hexValue? d
  return ((a * 16 + b) * 16 + c) * 16 + d

def isHigh (c : Nat) : Bool := 0xD800 ≤ c && c ≤ 0xDBFF

def isLow (c : Nat) : Bool := 0xDC00 ≤ c && c ≤ 0xDFFF

def pairPoint (high low : Nat) : Nat := 0x10000 + (high - 0xD800) * 0x400 + (low - 0xDC00)

/-- The rest of a string after its opening quote.  `opening` code points remained at that quote,
`read` are the code points so far, reversed, and `high` tells that the last of them is a high half
that an escape wrote: the escape of a low half is joined with it. -/
def readString (opening : Nat) (high : Bool) (read : Text) : Text → Except Stop (Text × Text)
  | [] => .error (.fault .unterminatedString opening)
  | 0x22 :: rest => .ok (read.reverse,rest)
  | [0x5C] => .error (.fault .unterminatedString opening)
  | 0x5C :: 0x75 :: a :: b :: c :: d :: rest =>
    match hexFour? a b c d, rest.isEmpty, high, read with
    | some unit, false, true, last :: before =>
      if isLow unit then readString opening false (pairPoint last unit :: before) rest
      else readString opening (isHigh unit) (unit :: read) rest
    | some unit, false, _, _ => readString opening (isHigh unit) (unit :: read) rest
    | _, _, _, _ => .error (.fault .invalidUnicodeEscape (rest.length + 5))
  | 0x5C :: 0x75 :: rest => .error (.fault .invalidUnicodeEscape (rest.length + 1))
  | 0x5C :: c :: rest =>
    match escaped? c with
    | some c => readString opening false (c :: read) rest
    | none => .error (.fault .invalidEscape (rest.length + 2))
  | c :: rest =>
    if c ≤ 0x1F then .error (.fault .controlCharacter (rest.length + 1))
    else readString opening false (c :: read) rest

def splitSign (t : Text) : Bool × Text :=
  match t with
  | 0x2D :: rest => (true,rest)
  | _ => (false,t)

/-- The digits in front of a point or an exponent, and what stands behind them.  A zero stands
alone. -/
def takeWhole? (body : Text) : Option (Text × Text) :=
  match body with
  | 0x30 :: rest => some ([0x30],rest)
  | c :: _ =>
    if Text.isDigit c then some (body.takeWhile Text.isDigit,body.dropWhile Text.isDigit) else none
  | [] => none

def takeFraction (t : Text) : Text × Text :=
  match t with
  | 0x2E :: after =>
    let digits := after.takeWhile Text.isDigit
    if digits.isEmpty then ([],t) else (digits,after.dropWhile Text.isDigit)
  | _ => ([],t)

def splitExponentSign (t : Text) : Bool × Text :=
  match t with
  | 0x2D :: after => (true,after)
  | 0x2B :: after => (false,after)
  | _ => (false,t)

def takeExponent (t : Text) : Option Int × Text :=
  match t with
  | c :: after =>
    if c = 0x65 ∨ c = 0x45 then
      let (minus,after) := splitExponentSign after
      let digits := after.takeWhile Text.isDigit
      if digits.isEmpty then (none,t)
      else
        let n : Int := Text.digitsValue digits
        (some (if minus then -n else n),after.dropWhile Text.isDigit)
    else (none,t)
  | [] => (none,t)

def readNumber (t : Text) : Except Stop (Value × Text) :=
  let (negative,body) := splitSign t
  match takeWhole? body with
  | none => .error (.fault .expectedValue t.length)
  | some (whole,rest) =>
    let (fraction,rest) := takeFraction rest
    let (exponent,rest) := takeExponent rest
    if fraction.isEmpty && exponent.isNone then
      if maxDigits < whole.length then .error (.integerTooLong whole.length)
      else
        let n : Int := Text.digitsValue whole
        .ok (.int (if negative then -n else n),rest)
    else
      let n := Text.digitsValue (whole ++ fraction)
      .ok (.float (.ofDecimal negative n (exponent.getD 0 - fraction.length)),rest)

def words : List (Text × Value) :=
  [("null",.null),("true",.bool true),("false",.bool false),("NaN",.float .nan),
    ("Infinity",.float (.infinity false)),("-Infinity",.float (.infinity true))]

mutual

/-- A value at the beginning of the text and the rest after it; `room` more containers may be
opened.  The fuel bounds the number of calls: there are at most two for each code point of the text, the
item of an array being read where the array's items are. -/
def readValue (fuel room : Nat) (t : Text) : Except Stop (Value × Text) :=
  match fuel with
  | 0 => .error (.fault .expectedValue t.length)
  | fuel + 1 =>
    match t with
    | 0x22 :: rest => (readString t.length false [] rest).map fun (s,rest) => (.str s,rest)
    | 0x7B :: rest =>
      if room = 0 then .error .tooDeep
      else match skip rest with
        | 0x7D :: rest => .ok (.obj [],rest)
        | rest => (readMembers fuel (room - 1) [] rest).map fun (members,rest) => (.obj members,rest)
    | 0x5B :: rest =>
      if room = 0 then .error .tooDeep
      else match skip rest with
        | 0x5D :: rest => .ok (.arr [],rest)
        | rest => (readItems fuel (room - 1) [] rest).map fun (items,rest) => (.arr items,rest)
    | _ =>
      match words.find? fun (word,_) => t.startsWith word with
      | some (word,v) => .ok (v,t.drop word.length)
      | none => readNumber t

/-- The items up to the end of an array; `read` are the items so far, reversed. -/
def readItems (fuel room : Nat) (read : List Value) (t : Text) :
    Except Stop (List Value × Text) :=
  match fuel with
  | 0 => .error (.fault .expectedValue t.length)
  | fuel + 1 =>
    match readValue fuel room t with
    | .error stop => .error stop
    | .ok (v,rest) =>
      match skip rest with
      | 0x5D :: rest => .ok ((v :: read).reverse,rest)
      | 0x2C :: rest => readItems fuel room (v :: read) (skip rest)
      | rest => .error (.fault .expectedComma rest.length)

/-- The members up to the end of an object; `read` are the members so far. -/
def readMembers (fuel room : Nat) (read : List (Text × Value)) (t : Text) :
    Except Stop (List (Text × Value) × Text) :=
  match fuel with
  | 0 => .error (.fault .expectedValue t.length)
  | fuel + 1 =>
    match t with
    | 0x22 :: rest =>
      match readString t.length false [] rest with
      | .error stop => .error stop
      | .ok (name,rest) =>
        match skip rest with
        | 0x3A :: rest =>
          match readValue fuel room (skip rest) with
          | .error stop => .error stop
          | .ok (v,rest) =>
            let read := Value.insert name v read
            match skip rest with
            | 0x7D :: rest => .ok (read,rest)
            | 0x2C :: rest => readMembers fuel room read (skip rest)
            | rest => .error (.fault .expectedComma rest.length)
        | rest => .error (.fault .expectedColon rest.length)
    | _ => .error (.fault .expectedName t.length)

end

def readWithin (room : Nat) (t : Text) : Except ReadError Value :=
  let refuse : Stop → ReadError
    | .fault fault remaining => .malformed fault (t.length - remaining)
    | .integerTooLong digits => .integerTooLong digits
    | .tooDeep => .tooDeep
  if t.head? = some 0xFEFF then .error (.malformed .byteOrderMark 0)
  else match readValue (2 * t.length + 1) room (skip t) with
    | .error stop => .error (refuse stop)
    | .ok (v,rest) =>
      let rest := skip rest
      if rest.isEmpty then .ok v else .error (refuse (.fault .extraData rest.length))

/-- The value that a text says. -/
def read (t : Text) : Except ReadError Value := readWithin maxDepth t

def Fault.message : Fault → Text
  | .byteOrderMark => "Unexpected UTF-8 BOM (decode using utf-8-sig)"
  | .expectedValue => "Expecting value"
  | .expectedName => "Expecting property name enclosed in double quotes"
  | .expectedColon => "Expecting ':' delimiter"
  | .expectedComma => "Expecting ',' delimiter"
  | .unterminatedString => "Unterminated string starting at"
  | .controlCharacter => "Invalid control character at"
  | .invalidEscape => "Invalid \\escape"
  | .invalidUnicodeEscape => "Invalid \\uXXXX escape"
  | .extraData => "Extra data"

/-- The wording of a refusal of `t`: a fault is placed by line, column and offset. -/
def ReadError.message (t : Text) : ReadError → Text
  | .malformed fault offset =>
    let before := t.take offset
    let line := before.count 0x0A + 1
    let column := (before.reverse.takeWhile (· ≠ 0x0A)).length + 1
    fault.message ++ (": line " : Text) ++ Text.ofNat line ++ (" column " : Text) ++
      Text.ofNat column ++ (" (char " : Text) ++ Text.ofNat offset ++ (")" : Text)
  | .integerTooLong digits =>
    ("Exceeds the limit (4300 digits) for integer string conversion: value has " : Text) ++
      Text.ofNat digits ++
      (" digits; use sys.set_int_max_str_digits() to increase the limit" : Text)
  | .tooDeep => "maximum recursion depth exceeded"

end ApiDocs.Json
