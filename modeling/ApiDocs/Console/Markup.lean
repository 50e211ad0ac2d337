import ApiDocs.Console.Emoji
import ApiDocs.Console.Style
import ApiDocs.Source.Constant
import ApiDocs.Text.Alphanumeric
import ApiDocs.Text.Quoted
/-!
Texts with markup, as a terminal without colours shows them.

A tag in brackets begins a style, a tag with a slash ends one, and neither is shown.  A backslash in
front of a tag makes it plain text.  A tag that ends a style which was not begun is an error.  Where a
style ends whose name begins with an at sign, the value behind its equals sign is read.
-/

namespace ApiDocs.Console

/-! ## Tags -/

def isTagStart (c : Nat) : Bool := (0x61 ≤ c && c ≤ 0x7A) || c == 0x23 || c == 0x2F || c == 0x40

/-- What stands in front of the next closing bracket, and what follows it; no opening bracket comes
before it. -/
def insideOfTag? : Text → Option (Text × Text)
  | [] => none
  | c :: rest =>
    if c = 0x5D then some ([],rest)
    else if c = 0x5B then none
    else (insideOfTag? rest).map fun (inside,after) => (c :: inside,after)

def tagAtStart? : Text → Option (Text × Text)
  | 0x5B :: c :: rest =>
    if isTagStart c then (insideOfTag? rest).map fun (inside,after) => (c :: inside,after) else none
  | _ => none

inductive Part where
  | plain (t : Text)
  /-- A tag with the position of its opening bracket. -/
  | tag (position : Nat) (inside : Text)
  deriving Repr

def plainBefore (t : Text) (parts : List Part) : List Part :=
  if t.isEmpty then parts else .plain t :: parts

/-- The parts of a text from a position on; `read` is plain text, reversed, that was not put into a part
yet.  The fuel exceeds the length of the text. -/
def partsFrom (fuel position : Nat) (read t : Text) : List Part :=
  match fuel with
  | 0 => plainBefore (read.reverse ++ t) []
  | fuel + 1 =>
    match t with
    | [] => plainBefore read.reverse []
    | c :: rest =>
      let slashes := (t.takeWhile (· == 0x5C)).length
      match tagAtStart? (t.drop slashes) with
      | none => partsFrom fuel (position + 1) (c :: read) rest
      | some (inside,after) =>
        let bracket := position + slashes
        let next := bracket + inside.length + 2
        plainBefore read.reverse <| plainBefore (Text.repeated (slashes / 2) 0x5C) <|
          (if slashes % 2 = 1 then .plain (0x5B :: inside ++ [0x5D]) else .tag bracket inside) ::
            partsFrom fuel next [] after

def partsOf (t : Text) : List Part := partsFrom (t.length + 1) 0 [] t

/-! ## Styles begun and ended -/

/-- The part of some parameters that is read as a value: the brackets behind the name of a handler, empty
ones if there are none, or everything where there is more than that. -/
def handlerArguments (parameters : Text) : Text :=
  let parameters := Text.trim parameters
  let arguments := parameters.dropWhile fun c => isWordSign c || c == 0x2E
  if arguments.isEmpty then "()"
  else if 2 ≤ arguments.length && arguments.head? == some 0x28 && arguments.getLast? == some 0x29 &&
    !arguments.contains 0x0A then arguments
  else parameters

inductive MarkupError where
  | notOpen (inside : Text) (position : Nat)
  | nothingOpen (position : Nat)
  | unreadable (parameters : Text) (fault : Source.ValueFault)
  | numberMissing
  deriving DecidableEq, Repr

def MarkupError.message : MarkupError → Text
  | .notOpen inside position =>
    ("closing tag '[" : Text) ++ inside ++ ("]' at position " : Text) ++ Text.ofNat position ++
      (" doesn't match any open tag" : Text)
  | .nothingOpen position =>
    ("closing tag '[/]' at position " : Text) ++ Text.ofNat position ++
      (" has nothing to close" : Text)
  | .unreadable parameters fault =>
    let read : Text := match fault with
      | .refused (.notPython ..) => (handlerArguments parameters).quoted ++ (" in " : Text)
      | _ => []
    ("error parsing " : Text) ++ read ++ parameters.quoted ++ ("; " : Text) ++ fault.message
  | .numberMissing => "invalid literal for int() with base 10: ''"

/-- The name of a tag: what stands in front of an equals sign. -/
def tagName (inside : Text) : Text := inside.takeWhile (· ≠ 0x3D)

def tagParameters (inside : Text) : Text := (inside.dropWhile (· ≠ 0x3D)).drop 1

def styleOfTag (name : Text) : Except MarkupError Text :=
  (normalStyle name).mapError fun _ => .numberMissing

structure OpenTag where
  style : Text
  parameters : Text
  deriving DecidableEq, Repr

/-- Why the parameters that are read when the style ends write no value. -/
def OpenTag.fault? (tag : OpenTag) : Option Source.ValueFault :=
  if tag.style.head? == some 0x40 && !tag.parameters.isEmpty then
    Source.valueFault? (handlerArguments tag.parameters)
  else none

def OpenTag.ended (tag : OpenTag) (others : List OpenTag) : Except MarkupError (List OpenTag) :=
  match tag.fault? with
  | some fault => .error (.unreadable tag.parameters fault)
  | none => .ok others

/-- The styles that are open behind a tag, the last one first. -/
def afterTag (position : Nat) (inside : Text) (openTags : List OpenTag) : Except MarkupError (List OpenTag) :=
  match tagName inside with
  | 0x2F :: name =>
    if (Text.trim name).isEmpty then
      match openTags with
      | [] => .error (.nothingOpen position)
      | tag :: others => tag.ended others
    else (styleOfTag (Text.trim name)).bind fun style =>
      match openTags.find? (·.style = style) with
      | none => .error (.notOpen inside position)
      | some tag => tag.ended (openTags.eraseP (·.style = style))
  | name => (styleOfTag name).map fun style => ⟨style,tagParameters inside⟩ :: openTags

/-- The controls that are never shown: bell, backspace, vertical tab, form feed, carriage return. -/
def isHidden (c : Nat) : Bool := [7,8,11,12,13].contains c

/-- An opening bracket with a backslash in front of it stands for itself. -/
def withoutEscapes : Text → Text
  | 0x5C :: 0x5B :: rest => 0x5B :: withoutEscapes rest
  | c :: rest => c :: withoutEscapes rest
  | [] => []

/-- The text that parts show, when some styles are open. -/
def shownParts (openTags : List OpenTag) : List Part → Except MarkupError Text
  | [] => .ok []
  | .plain t :: rest =>
    (shownParts openTags rest).map ((withEmoji (withoutEscapes t)).filter (!isHidden ·) ++ ·)
  | .tag position inside :: rest =>
    (afterTag position inside openTags).bind fun openTags => shownParts openTags rest

/-- The text that a text with markup shows. -/
def shownText (t : Text) : Except MarkupError Text :=
  if t.contains 0x5B then shownParts [] (partsOf t) else .ok ((withEmoji t).filter (!isHidden ·))

end ApiDocs.Console
