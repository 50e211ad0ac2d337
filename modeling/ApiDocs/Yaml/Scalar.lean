import ApiDocs.Text.Pattern
import ApiDocs.Value
import ApiDocs.Number.Shortest
/-!
YAML scalars: what a plain text would be read as, and in which styles a text can be written.

A text is written plain only if it is read back as that text: not as a null, boolean, number, date,
merge or default mark, and not as an indicator of the document's structure.
-/

namespace ApiDocs.Yaml

open Pattern

def digit : Pattern := .oneOf Text.isDigit

def digitOrBar : Pattern := .oneOf fun c => Text.isDigit c || c == 0x5F

def sign : Pattern := optional (among "+-")

/-- Digits of base sixty, each after a colon. -/
def sixties : Pattern := Pattern.some (all [point 0x3A,optional (among "012345"),digit])

def booleanWords : Pattern :=
  words ["yes","Yes","YES","no","No","NO","true","True","TRUE","false","False","FALSE",
    "on","On","ON","off","Off","OFF"]

def nullWords : Pattern := words ["~","null","Null","NULL",""]

/-- The words that merge mappings or give a default value. -/
def markWords : Pattern := words ["<<","=","!","&","*"]

def integers : Pattern :=
  any [all [sign,literal "0b",Pattern.some (among "01_")],
    all [sign,point 0x30,Pattern.some (among "01234567_")],
    all [sign,any [point 0x30,all [.oneOf fun c => 0x31 ≤ c && c ≤ 0x39,many digitOrBar]]],
    all [sign,literal "0x",Pattern.some (among "0123456789abcdefABCDEF_")],
    all [sign,.oneOf fun c => 0x31 ≤ c && c ≤ 0x39,many digitOrBar,sixties]]

/-- An exponent, which always has a sign. -/
def exponent : Pattern := all [among "eE",among "+-",Pattern.some digit]

def floats : Pattern :=
  any [all [sign,digit,many digitOrBar,point 0x2E,many digitOrBar,optional exponent],
    all [point 0x2E,digit,many digitOrBar,optional exponent],
    all [sign,digit,many digitOrBar,sixties,point 0x2E,many digitOrBar],
    all [sign,words [".inf",".Inf",".INF"]],
    words [".nan",".NaN",".NAN"]]

def timestamps : Pattern :=
  let upToTwo := seq digit (optional digit)
  any [all [times 4 digit,point 0x2D,times 2 digit,point 0x2D,times 2 digit],
    all [times 4 digit,point 0x2D,upToTwo,point 0x2D,upToTwo,
      any [among "Tt",Pattern.some (among " \t")],upToTwo,
      point 0x3A,times 2 digit,point 0x3A,times 2 digit,
      optional (all [point 0x2E,many digit]),
      optional (all [many (among " \t"),
        any [point 0x5A,all [among "+-",upToTwo,optional (all [point 0x3A,times 2 digit])]]])]]

/-- The plain text is read as the text itself. -/
def readsAsText (t : Text) : Bool :=
  !(booleanWords.fits t || nullWords.fits t || markWords.fits t || integers.fits t ||
    floats.fits t || timestamps.fits t)

/-- A line break inside a scalar. -/
def isBreak (c : Nat) : Bool := c == 0x0A || c == 0x85 || c == 0x2028 || c == 0x2029

def isSeparator (c : Nat) : Bool := isBreak c || c == 0 || c == 0x20 || c == 0x09 || c == 0x0D

/-- A code point that can be written as it is. -/
def isWritable (c : Nat) : Bool :=
  c == 0x0A || (0x20 ≤ c && c ≤ 0x7E) || c == 0x85 ||
    (((0xA0 ≤ c && c ≤ 0xD7FF) || (0xE000 ≤ c && c ≤ 0xFFFD) || (0x10000 ≤ c && c < 0x10FFFF)) &&
      c != 0xFEFF)

/-- The first code point, followed by white space or not, starts something other than a text. -/
def startsStructure (c : Nat) (alone : Bool) : Bool :=
  ("#,[]\x7b\x7d&*!|>'\"%@\x60" : Text).contains c || (("?:-" : Text).contains c && alone)

/-- A colon before or a number sign after white space stands behind the first code point. -/
def holdsStructure (before : Nat) : Text → Bool
  | [] => false
  | c :: rest =>
    let alone := match rest with
      | [] => true
      | d :: _ => isSeparator d
    (c == 0x3A && alone) || (c == 0x23 && isSeparator before) || holdsStructure c rest

/-- A plain text would be taken for structure. -/
def looksStructural (t : Text) : Bool :=
  match t with
  | [] => false
  | c :: rest =>
    let alone := match rest with
      | [] => true
      | d :: _ => isSeparator d
    Text.startsWith t "---" || Text.startsWith t "..." || startsStructure c alone ||
      holdsStructure c rest

def blankBeforeBreak : Text → Bool
  | a :: b :: rest => (a == 0x20 && isBreak b) || blankBeforeBreak (b :: rest)
  | _ => false

def blankAfterBreak : Text → Bool
  | a :: b :: rest => (isBreak a && b == 0x20) || blankAfterBreak (b :: rest)
  | _ => false

def isMultiline (t : Text) : Bool := t.any isBreak

inductive Style where
  | plain
  | single
  | double
  deriving DecidableEq, Repr

def hasEdge (t : Text) : Bool :=
  let edge (c : Option Nat) : Bool := c.any fun c => c == 0x20 || isBreak c
  edge t.head? || edge t.getLast?

/-- The style of a text, which may stand as the key of a one-line member. -/
def styleOf (t : Text) (asKey : Bool) : Style :=
  let special := blankBeforeBreak t || t.any (!isWritable ·)
  let plain :=
    !t.isEmpty && !special && !hasEdge t && !isMultiline t && !looksStructural t && readsAsText t
  if plain then .plain
  else if special || blankAfterBreak t || (asKey && isMultiline t) then .double
  else .single

/-- The number layout, which always has a point in front of an exponent. -/
def numberLayout : Binary64.Layout := ⟨-4,16,true,".nan",".inf"⟩

/-- The plain form of a value that is neither a text nor holds others. -/
def atom : Value → Text
  | .bool true => "true"
  | .bool false => "false"
  | .int n => Text.ofInt n
  | .float x => numberLayout.text x
  | _ => "null"

end ApiDocs.Yaml
