import ApiDocs.Interpreter
import ApiDocs.Text.Blank
import ApiDocs.Text.Digit
import ApiDocs.Text.Quoted
import ApiDocs.Value
/-!
Status codes out of what an application gives.

An application may give its status as a number of any kind, as a text or octets that write an integer, or as the first word
of a status line, which may be a text or octets as well.
-/

namespace ApiDocs.Capture

/-- Why a request cannot go on. -/
inductive Fault where
  | application (message : Text)
  | missing (name : Text)
  | notRecord (v : Value)
  | notInteger (v : Value)
  | integerTooLong (digits : Nat)
  | notNumber (kind : Text)
  | notFinite (isNan : Bool)
  | blankStatus
  | statusNotText (kind : Text)
  | notOctets (kind : Text)
  | textBody
  | negativeCount
  | countTooLarge
  /-- So many octets are within the range of sizes, but together with what is kept of them beyond it. -/
  | octetsTooLarge
  | noMemory
  | octetRange
  | notOctet (kind : Text)
  | notStarted
  deriving Repr

def maxStatusDigits : Nat := 4300

/-- The greatest number of code points that a fault shows of what it is about, and of octets that it shows at all. -/
def maxShown : Nat := 200

def shownLiteral : Value → Text
  | .foreign (.bytes b) => (Value.foreign (.bytes (b.take maxShown))).shown
  | v => v.shown

def Fault.message : Fault → Text
  | application message => message
  | missing name => name.quoted
  | notRecord (.str _) => "string indices must be integers, not 'str'"
  | notRecord (.arr _) => "list indices must be integers or slices, not str"
  | notRecord v =>
    ("'" : Text) ++ v.kindName ++ ("' object is not subscriptable" : Text)
  | notInteger v => ("invalid literal for int() with base 10: " : Text) ++ (shownLiteral v).take maxShown
  | integerTooLong digits =>
    ("Exceeds the limit (4300 digits) for integer string conversion: value has " : Text) ++
      Text.ofNat digits ++
      (" digits; use sys.set_int_max_str_digits() to increase the limit" : Text)
  | notNumber kind =>
    ("int() argument must be a string, a bytes-like object or a real number, not '" : Text) ++
      kind ++ ("'" : Text)
  | notFinite true => "cannot convert float NaN to integer"
  | notFinite false => "cannot convert float infinity to integer"
  | blankStatus => "list index out of range"
  | statusNotText kind => ("'" : Text) ++ kind ++ ("' object has no attribute 'split'" : Text)
  | notOctets kind => ("cannot convert '" : Text) ++ kind ++ ("' object to bytes" : Text)
  | textBody => "string argument without an encoding"
  | negativeCount => "negative count"
  | countTooLarge => "cannot fit 'int' into an index-sized integer"
  | octetsTooLarge => "byte string is too large"
  | noMemory => ""
  | octetRange => "bytes must be in range(0, 256)"
  | notOctet kind =>
    ("'" : Text) ++ kind ++ ("' object cannot be interpreted as an integer" : Text)
  | notStarted => "'NoneType' object is not callable"

/-- The blanks of ASCII that move the cursor, which may stand around an integer and part octets into words. -/
def isAsciiBlank (c : Nat) : Bool := c == 0x20 || (9 ≤ c && c ≤ 13)

/-- A code point as it counts in an integer: beyond ASCII any blank is a space, and a digit of any script stands for one of
    ASCII. -/
def integerPoint (c : Nat) : Nat :=
  if c < 0x80 then c
  else if isBlank c then 0x20
  else match decimalValue? c with
    | some d => 0x30 + d
    | none => 0x3F

/-- Digits with single underscores between them: their values, and what follows them. `none` when there is no digit or an
    underscore is not followed by one. -/
def readDigits (values : List Nat) : Text → Option (List Nat × Text)
  | [] => if values.isEmpty then none else some (values.reverse,[])
  | [0x5F] => none
  | 0x5F :: d :: rest =>
    if values.isEmpty then none
    else if 0x30 ≤ d && d ≤ 0x39 then readDigits ((d - 0x30) :: values) rest
    else none
  | c :: rest =>
    if 0x30 ≤ c && c ≤ 0x39 then readDigits ((c - 0x30) :: values) rest
    else if values.isEmpty then none
    else some (values.reverse,c :: rest)

/-- The integer that is written with blanks around it, a sign, and digits; `shown` is what a fault shows. -/
def integerOf (shown : Value) (t : Text) : Except Fault Int :=
  let body := t.dropWhile isAsciiBlank
  let (negative,body) := match body with
    | 0x2D :: rest => (true,rest)
    | 0x2B :: rest => (false,rest)
    | body => (false,body)
  match readDigits [] body with
  | none => .error (.notInteger shown)
  | some (values,rest) =>
    if maxStatusDigits < values.length then .error (.integerTooLong values.length)
    else if rest.all isAsciiBlank then
      let n : Nat := values.foldl (fun n d => 10 * n + d) 0
      .ok (if negative then -n else n)
    else .error (.notInteger shown)

def integerOfText (t : Text) : Except Fault Int := integerOf (.str t) (t.map integerPoint)

def integerOfOctets (b : Bytes) : Except Fault Int := integerOf (.foreign (.bytes b)) (b.map (·.toNat))

/-- A status that is given as a value; a fraction is cut off. -/
def statusOfValue : Value → Except Fault Int
  | .int n => .ok n
  | .bool b => .ok (if b then 1 else 0)
  | .float x =>
    match x.truncate? with
    | some n => .ok n
    | none => .error (.notFinite (x = .nan))
  | .str t => integerOfText t
  | .foreign (.bytes b) => integerOfOctets b
  | v => .error (.notNumber v.kindName)

def firstWordOfOctets? (b : Bytes) : Option Bytes :=
  match (b.dropWhile fun x => isAsciiBlank x.toNat).takeWhile fun x => !isAsciiBlank x.toNat with
  | [] => none
  | word => some word

/-- A status that is given by the first word of a line. -/
def statusOfLine : Value → Except Fault Int
  | .str line =>
    match line.firstWord? with
    | some (word,_) => integerOfText word
    | none => .error .blankStatus
  | .foreign (.bytes line) =>
    match firstWordOfOctets? line with
    | some word => integerOfOctets word
    | none => .error .blankStatus
  | v => .error (.statusNotText v.kindName)

end ApiDocs.Capture
