import ApiDocs.Endpoint
import ApiDocs.Text.Blank
import ApiDocs.Text.Utf8
/-!
Reading typed data out of values.

A check takes a value that is near enough to what is wanted and refuses others, naming the place of
each fault.  All faults of a value are reported, in the order of the fields.
-/

namespace ApiDocs.Validation

inductive Fault where
  | missing
  | textExpected
  | textNotUnicode
  | integerExpected
  | integerUnreadable
  | integerTooLong
  | integerWithFraction
  | numberNotFinite
  | booleanExpected
  | booleanUnreadable
  | listExpected
  | recordExpected (name : Text)
  | choiceExpected (choices : Text)
  | refused (reason : Text)
  deriving DecidableEq, Repr

def Fault.code : Fault → Text
  | .missing => "missing"
  | .textExpected => "string_type"
  | .textNotUnicode => "string_unicode"
  | .integerExpected => "int_type"
  | .integerUnreadable => "int_parsing"
  | .integerTooLong => "int_parsing_size"
  | .integerWithFraction => "int_from_float"
  | .numberNotFinite => "finite_number"
  | .booleanExpected => "bool_type"
  | .booleanUnreadable => "bool_parsing"
  | .listExpected => "list_type"
  | .recordExpected _ => "model_type"
  | .choiceExpected _ => "enum"
  | .refused _ => "value_error"

def Fault.message : Fault → Text
  | .missing => "Field required"
  | .textExpected => "Input should be a valid string"
  | .textNotUnicode =>
    "Input should be a valid string, unable to parse raw data as a unicode string"
  | .integerExpected => "Input should be a valid integer"
  | .integerUnreadable =>
    "Input should be a valid integer, unable to parse string as an integer"
  | .integerTooLong =>
    "Unable to parse input string as an integer, exceeded maximum size"
  | .integerWithFraction =>
    "Input should be a valid integer, got a number with a fractional part"
  | .numberNotFinite => "Input should be a finite number"
  | .booleanExpected => "Input should be a valid boolean"
  | .booleanUnreadable => "Input should be a valid boolean, unable to interpret input"
  | .listExpected => "Input should be a valid list"
  | .recordExpected name =>
    ("Input should be a valid dictionary or instance of " : Text) ++ name
  | .choiceExpected choices => ("Input should be " : Text) ++ choices
  | .refused reason => ("Value error, " : Text) ++ reason

/-- A fault and the names of the fields that lead to it, the outermost first. -/
structure Problem where
  location : List Text
  fault : Fault
  deriving DecidableEq, Repr

def Problem.place (p : Problem) : Text := Text.join "." p.location

/-- The outcome of a check: what was read, or every problem. -/
abbrev Checked (α : Type) := Except (List Problem) α

def fail {α : Type} (fault : Fault) : Checked α := .error [⟨[],fault⟩]

def Checked.under {α : Type} (name : Text) (r : Checked α) : Checked α :=
  r.mapError (·.map fun p => { p with location := name :: p.location })

/-- Two parts are read, and the problems of both are reported. -/
def Checked.and {α β : Type} (a : Checked α) (b : Checked β) : Checked (α × β) :=
  match a, b with
  | .ok a, .ok b => .ok (a,b)
  | .error p, .ok _ => .error p
  | .ok _, .error q => .error q
  | .error p, .error q => .error (p ++ q)

def items {α : Type} (check : Value → Checked α) (index : Nat) : List Value → Checked (List α)
  | [] => .ok []
  | v :: rest =>
    (((check v).under (Text.ofNat index)).and (items check (index + 1) rest)).map fun (a,as) => a :: as

/-- A list is read item by item; an empty tuple or set is an empty list. -/
def list {α : Type} (check : Value → Checked α) : Value → Checked (List α)
  | .arr vs => items check 0 vs
  | .foreign .emptyTuple | .foreign .emptySet => .ok []
  | _ => fail .listExpected

/-- A text, or octets that encode one. -/
def text : Value → Checked Text
  | .str t => .ok t
  | .foreign (.bytes b) =>
    match Utf8.decode b with
    | .ok t => .ok t
    | .error _ => fail .textNotUnicode
  | _ => fail .textExpected

/-- The blanks around numbers: the four separators are not among them. -/
def isMargin (c : Nat) : Bool := isBlank c && !(0x1C ≤ c && c ≤ 0x1F)

/-- The digits after the leading zeros, among which any number of underscores may stand.  A zero in
front of a point or at the end is kept. -/
def dropZeros (last : Nat) : Text → Option Text
  | [] => some [last]
  | c :: rest =>
    if c = 0x30 ∨ c = 0x5F then dropZeros c rest
    else if Text.isDigit c then some (c :: rest)
    else if c = 0x2E then some (last :: c :: rest)
    else none

/-- The text in front of a point that only zeros follow. -/
def dropFraction (t : Text) : Option Text :=
  match t.dropWhile (· ≠ 0x2E) with
  | [] => some t
  | _ :: zeros =>
    if !zeros.isEmpty && zeros.all (· == 0x30) then some (t.takeWhile (· ≠ 0x2E)) else none

/-- Underscores are removed, each of which has to stand alone between other signs. -/
def dropUnderscores (t : Text) : Option Text :=
  let parts := Text.splitOn 0x5F t
  if parts.all (!·.isEmpty) then some parts.flatten else none

def maxDigits : Nat := 4300

def digits (negative : Bool) (t : Text) : Checked Int :=
  if t.isEmpty || !t.all Text.isDigit then fail .integerUnreadable
  else if maxDigits < t.length then fail .integerTooLong
  else
    let n : Int := Text.digitsValue t
    .ok (if negative then -n else n)

/-- An integer out of a text: blanks around it, a sign, leading zeros, underscores between digits and
a fraction of zeros are let through. -/
def integerText (t : Text) : Checked Int :=
  let t := ((t.dropWhile isMargin).reverse.dropWhile isMargin).reverse
  let (negative,body) := match t with
    | 0x2D :: rest => (true,rest)
    | 0x2B :: rest => (false,rest)
    | _ => (false,t)
  let cleaned : Option Text := do
    let body ← match body with
      | 0x30 :: rest => dropZeros 0x30 rest
      | c :: _ => if Text.isDigit c then some body else none
      | [] => none
    dropUnderscores (← dropFraction body)
  match cleaned with
  | some body => digits negative body
  | none => fail .integerUnreadable

def integerFloat (x : Binary64) : Checked Int :=
  match x with
  | .finite _ _ _ =>
    match x.toInt? with
    | some n => if -0x8000000000000000 < n ∧ n < 0x8000000000000000 then .ok n else fail .integerTooLong
    | none => fail .integerWithFraction
  | _ => fail .numberNotFinite

/-- An integer, a boolean, a whole number or the text of an integer. -/
def integer : Value → Checked Int
  | .int n => .ok n
  | .bool b => .ok (if b then 1 else 0)
  | .float x => integerFloat x
  | .str t => if t.all isScalar then integerText t else fail .textNotUnicode
  | .foreign (.bytes b) =>
    match Utf8.decode b with
    | .ok t => integerText t
    | .error _ => fail .integerUnreadable
  | _ => fail .integerExpected

def falseWords : List Text := ["0","off","f","false","n","no"]

def trueWords : List Text := ["1","on","t","true","y","yes"]

def booleanText (t : Text) : Checked Bool :=
  let word := Text.lowerAscii t
  if trueWords.contains word then .ok true
  else if falseWords.contains word then .ok false
  else fail .booleanUnreadable

def booleanInt (n : Int) : Checked Bool :=
  if n = 0 then .ok false
  else if n = 1 then .ok true
  else if -0x8000000000000000 ≤ n ∧ n < 0x8000000000000000 then fail .booleanUnreadable
  else fail .booleanExpected

def boolean : Value → Checked Bool
  | .bool b => .ok b
  | .int n => booleanInt n
  | .float x =>
    match integerFloat x with
    | .ok n => booleanInt n
    | .error _ => fail .booleanExpected
  | .str t => if t.all isScalar then booleanText t else fail .textNotUnicode
  | .foreign (.bytes b) =>
    match Utf8.decode b with
    | .ok t => booleanText t
    | .error _ => fail .booleanUnreadable
  | _ => fail .booleanExpected

/-- A field is read under its own name. -/
def required {α : Type} (name : Text) (check : Value → Checked α)
    (members : List (Text × Value)) : Checked α :=
  match Value.lookup? name members with
  | some v => (check v).under name
  | none => (fail .missing : Checked α).under name

/-- A field is read under the first of its names that is used; without one it has its default. -/
def optional {α : Type} (names : List Text) (default : α) (check : Value → Checked α)
    (members : List (Text × Value)) : Checked α :=
  match names.findSome? fun name => (Value.lookup? name members).map fun v => (name,v) with
  | some (name,v) => (check v).under name
  | none => .ok default

end Validation

open Validation

def Parameter.check : Value → Checked Parameter
  | .obj members =>
    ((Validation.required "name" text members).and
      ((Validation.required "type" text members).and
        (optional ["required"] false boolean members))).map
      fun (name,type,required) => ⟨name,type,required⟩
  | _ => fail (.recordExpected "Parameter")

def Response.check : Value → Checked Response
  | .obj members =>
    ((optional ["body"] .null .ok members).and
      (optional ["statusCode","status_code"] 200 integer members)).map
      fun (body,status) => ⟨body,status⟩
  | _ => fail (.recordExpected "Response")

/-- An endpoint out of its members; members of other names are ignored. -/
def Endpoint.check : Value → Checked Endpoint
  | .obj members =>
    ((optional ["description"] [] text members).and
      ((optional ["handler"] [] text members).and
        ((optional ["method"] [] text members).and
          ((optional ["path"] [] text members).and
            ((optional ["response","response_type_name"] [] text members).and
              ((optional ["parameters"] [] (list Parameter.check) members).and
                (optional ["responses"] [] (list Response.check) members))))))).map
      fun (description,handler,method,path,responseType,parameters,responses) =>
        ⟨description,handler,method,path,responseType,parameters,responses⟩
  | _ => fail (.recordExpected "Endpoint")

/-- A sample with a status that has yet to be read as an integer. -/
def Response.observed (body status : Value) : Checked Response :=
  ((integer status).under "status_code").map fun status => ⟨body,status⟩

end ApiDocs
