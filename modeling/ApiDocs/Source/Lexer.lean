import ApiDocs.Source.Token
import ApiDocs.Text.Blank
import ApiDocs.Text.Identifier
import ApiDocs.Text.Printable
/-!
Reading tokens.

Lines are grouped by their indentation: a line that is indented further than the one before it opens
a group, and a line that is indented less closes one or more.  Tabs count in two ways, as up to eight
columns and as one, and both have to agree on what is deeper.  Blank lines and comments count for
nothing, and neither do line ends between brackets.
-/

namespace ApiDocs.Source

def maxBrackets : Nat := 200

def maxIndents : Nat := 100

/-- An indentation, measured with wide and with narrow tabs. -/
structure Indent where
  wide : Nat := 0
  narrow : Nat := 0
  deriving DecidableEq, Repr

/-- Where the lexer stands. -/
structure Place where
  line : Nat := 1
  column : Nat := 0
  atLineStart : Bool := true
  /-- The open indentations, the innermost first. -/
  indents : List Indent := []
  /-- The open brackets and their lines, the innermost first. -/
  brackets : List (Nat × Nat) := []

namespace Place

/-- The line that is reported at this place: at the end of the text it is the last line. -/
def shownLine (p : Place) (rest : Text) : Nat := if rest.isEmpty && p.column = 0 then p.line - 1 else p.line

/-- The place after code points of the same line. -/
def forward (p : Place) (n : Nat) : Place := { p with column := p.column + n }

/-- The place after a line end. -/
def nextLine (p : Place) : Place := { p with line := p.line + 1, column := 0 }

/-- The place after a text that may hold line ends. -/
def past (p : Place) (t : Text) : Place :=
  let ends := t.count 0x0A
  if ends = 0 then p.forward t.length
  else
    { p with
      line := p.line + ends
      column := (t.reverse.takeWhile (· ≠ 0x0A)).length }

def opened (p : Place) : Option (Nat × Nat) := p.brackets.head?

/-- How tokens end where the text ends too early. -/
def endsEarly (p : Place) (rest : Text) : Ending :=
  match p.opened with
  | some (bracket,line) => .halt line (neverClosed bracket) p.opened
  | none => .halt (p.shownLine rest) "unexpected EOF while parsing" none

def indent (p : Place) : Indent := p.indents.head?.getD {}

end Place

/-- A text that the lexer reads: every line end is a line feed, and one stands at the end.  A line end of two
signs at the end does not count as that one. -/
def normalize (t : Text) : Text :=
  let lines := t.withLineFeeds
  if lines.getLast? = some 0x0A ∧ ¬ [0x0D,0x0A] <:+ t then lines else lines ++ [0x0A]

/-- A code point that a name can begin with; beyond ASCII any can, and is looked at later. -/
def beginsWord (c : Nat) : Bool :=
  (0x61 ≤ c && c ≤ 0x7A) || (0x41 ≤ c && c ≤ 0x5A) || c == 0x5F || 0x80 ≤ c

def continuesWord (c : Nat) : Bool := beginsWord c || Text.isDigit c

/-- A backslash was read: what follows the line end after it.  A text that ends there or that goes on
in the same line cannot be read. -/
def continueLine (p : Place) : Text → Except Ending (Place × Text)
  | 0x0A :: rest =>
    let p := p.nextLine
    if rest.isEmpty then .error (p.endsEarly rest) else .ok (p,rest)
  | rest => .error (.halt (p.shownLine rest) "unexpected character after line continuation character" p.opened)

/-- The indentation at the beginning of a line and what follows it.  `joined` is the indentation in
front of the first backslash that continues the line, if there is one. -/
def readIndent (fuel : Nat) (p : Place) (joined : Nat) (i : Indent) (t : Text) :
    Except Ending (Place × Nat × Indent × Text) :=
  match fuel with
  | 0 => .ok (p,joined,i,t)
  | fuel + 1 =>
    match t with
    | 0x20 :: rest => readIndent fuel (p.forward 1) joined ⟨i.wide + 1,i.narrow + 1⟩ rest
    | 0x09 :: rest => readIndent fuel (p.forward 1) joined ⟨(i.wide / 8 + 1) * 8,i.narrow + 1⟩ rest
    | 0x0C :: rest => readIndent fuel (p.forward 1) joined {} rest
    | 0x5C :: rest =>
      match continueLine (p.forward 1) rest with
      | .error e => .error e
      | .ok (p,rest) => readIndent fuel p (if joined = 0 then i.wide else joined) i rest
    | t => .ok (p,joined,i,t)

/-- The indentations that stay open in front of a line, and how many are closed. -/
def closeIndents (wide : Nat) : List Indent → List Indent × Nat
  | [] => ([],0)
  | i :: rest =>
    if wide < i.wide then
      let (left,closed) := closeIndents wide rest
      (left,closed + 1)
    else (i :: rest,0)

/-- The indents and dedents in front of a line. -/
def indentation (p : Place) (i : Indent) (rest : Text) : Except Ending (Place × List Kind) :=
  let wrong (wording : Text) : Except Ending (Place × List Kind) := .error (.halt (p.shownLine rest) wording none)
  let mixed : Text := "inconsistent use of tabs and spaces in indentation"
  let current := p.indent
  if i.wide = current.wide then
    if i.narrow = current.narrow then .ok (p,[]) else wrong mixed
  else if current.wide < i.wide then
    if maxIndents ≤ p.indents.length + 1 then wrong "too many levels of indentation"
    else if i.narrow ≤ current.narrow then wrong mixed
    else .ok ({ p with indents := i :: p.indents },[.indent])
  else
    let (left,closed) := closeIndents i.wide p.indents
    let p := { p with indents := left }
    if p.indent = i then .ok (p,List.replicate closed .dedent)
    else if p.indent.wide = i.wide then wrong mixed
    else wrong "unindent does not match any outer indentation level"

def invalidLiteral (kind : Text) : Text := ("invalid " : Text) ++ kind ++ (" literal" : Text)

/-- Decimal digits with single underscores between them; an underscore that is followed by something else
is wrong. -/
def digitsTail : Text → Except Text Text
  | 0x5F :: c :: rest => if Text.isDigit c then digitsTail rest else .error (invalidLiteral "decimal")
  | [0x5F] => .error (invalidLiteral "decimal")
  | c :: rest => if Text.isDigit c then digitsTail rest else .ok (c :: rest)
  | [] => .ok []

def noDigit (base : Text) (c : Nat) : Text :=
  if Text.isDigit c then ("invalid digit '" : Text) ++ c :: ("' in " : Text) ++ base ++ (" literal" : Text)
  else invalidLiteral base

/-- Digits of a base, in groups after the first of which an underscore may stand; no group is empty. -/
def baseTail (base : Text) (isDigit : Nat → Bool) (started : Bool) : Text → Except Text Text
  | 0x5F :: c :: rest => if isDigit c then baseTail base isDigit true rest else .error (noDigit base c)
  | [0x5F] => .error (invalidLiteral base)
  | c :: rest =>
    if isDigit c then baseTail base isDigit true rest
    else if started && !Text.isDigit c then .ok (c :: rest)
    else .error (noDigit base c)
  | [] => if started then .ok [] else .error (invalidLiteral base)

def startsKeyword (t : Text) (word : Text) : Bool :=
  t.startsWith word && !((t.drop word.length).head?.any continuesWord)

/-- A number may end in front of this text: no word in ASCII begins there but a keyword that can follow a
number. -/
def numberEnds (t : Text) : Bool :=
  match t with
  | [] => true
  | c :: rest =>
    if startsKeyword t "and" || startsKeyword t "else" || startsKeyword t "for" ||
        startsKeyword t "or" || startsKeyword t "not" ||
        (c == 0x69 && rest.head?.any fun d => d == 0x66 || d == 0x6E || d == 0x73) then true
    else 0x80 ≤ c || !continuesWord c

/-- The text if a number of some kind may end in front of it. -/
def endNumber (kind t : Text) : Except Text Text := if numberEnds t then .ok t else .error (invalidLiteral kind)

/-- An imaginary mark, if there is one, ends a number. -/
def imaginaryTail (t : Text) : Except Text Text :=
  match t with
  | c :: rest => if c = 0x6A ∨ c = 0x4A then endNumber "imaginary" rest else endNumber "decimal" t
  | [] => .ok []

/-- An exponent may follow; the letter of one without digits has to begin a keyword. -/
def exponentTail (t : Text) : Except Text Text :=
  match t with
  | e :: rest =>
    if e = 0x65 ∨ e = 0x45 then
      match rest with
      | c :: after =>
        if c = 0x2B ∨ c = 0x2D then
          match after with
          | d :: more =>
            if Text.isDigit d then (digitsTail more).bind imaginaryTail else .error (invalidLiteral "decimal")
          | [] => .error (invalidLiteral "decimal")
        else if Text.isDigit c then (digitsTail after).bind imaginaryTail
        else endNumber "decimal" t
      | [] => endNumber "decimal" t
    else imaginaryTail t
  | [] => .ok []

/-- The digits after a point, and what may follow them. -/
def fractionTail (t : Text) : Except Text Text :=
  match t with
  | c :: rest => if Text.isDigit c then (digitsTail rest).bind exponentTail else exponentTail t
  | [] => .ok []

/-- Zeros at the beginning of a number, with single underscores in front of digits. -/
def zerosTail : Text → Except Text Text
  | 0x5F :: c :: rest =>
    if c = 0x30 then zerosTail rest
    else if Text.isDigit c then .ok (c :: rest)
    else .error (invalidLiteral "decimal")
  | [0x5F] => .error (invalidLiteral "decimal")
  | c :: rest => if c = 0x30 then zerosTail rest else .ok (c :: rest)
  | [] => .ok []

def leadingZeros : Text :=
  "leading zeros in decimal integer literals are not permitted; use an 0o prefix for octal integers"

/-- What follows a number that begins with a zero. -/
def zeroTail (t : Text) : Except Text Text :=
  let inBase (base : Text) (isDigit : Nat → Bool) (rest : Text) : Except Text Text :=
    (baseTail base isDigit false rest).bind (endNumber base)
  match t with
  | c :: rest =>
    if c = 0x78 ∨ c = 0x58 then inBase "hexadecimal" (fun d => (Text.hexValue? d).isSome) rest
    else if c = 0x6F ∨ c = 0x4F then inBase "octal" (fun d => 0x30 ≤ d && d ≤ 0x37) rest
    else if c = 0x62 ∨ c = 0x42 then inBase "binary" (fun d => d == 0x30 || d == 0x31) rest
    else
      (zerosTail t).bind fun rest =>
        let nonzero := rest.head?.any Text.isDigit
        (if nonzero then digitsTail rest else .ok rest).bind fun rest =>
          match rest with
          | 0x2E :: after => fractionTail after
          | c :: _ =>
            if c = 0x65 ∨ c = 0x45 ∨ c = 0x6A ∨ c = 0x4A then exponentTail rest
            else if nonzero then .error leadingZeros
            else endNumber "decimal" rest
          | [] => if nonzero then .error leadingZeros else .ok []
  | [] => .ok []

/-- What follows the number that begins here; else the wording for what is wrong with it. -/
def numberTail (t : Text) : Except Text Text :=
  match t with
  | 0x30 :: rest => zeroTail rest
  | 0x2E :: rest => fractionTail rest
  | _ =>
    (digitsTail t).bind fun rest =>
      match rest with
      | 0x2E :: after => fractionTail after
      | _ => exponentTail rest

/-- The letters in front of a string, of which some go together in any order and none occurs twice;
`none` when no quote follows them. -/
def stringHead? (b r u f : Bool) : Text → Option Text
  | c :: rest =>
    if c = 0x27 ∨ c = 0x22 then some (c :: rest)
    else
      let c := if 0x41 ≤ c ∧ c ≤ 0x5A then c + 0x20 else c
      if c = 0x62 ∧ !(b || u || f) then stringHead? true r u f rest
      else if c = 0x75 ∧ !(b || u || r || f) then stringHead? b r true f rest
      else if c = 0x72 ∧ !(r || u) then stringHead? b true u f rest
      else if c = 0x66 ∧ !(f || b || u) then stringHead? b r u true rest
      else none
  | [] => none

/-- What follows the end of a string that is closed by `size` quotes, `run` of which stand directly in
front; when it is not closed, what follows the place where that is found out. -/
def stringTail (quote size : Nat) (run : Nat) : Text → Except Text Text
  | [] => .error []
  | [0x5C] => .error []
  | 0x5C :: _ :: rest => stringTail quote size 0 rest
  | c :: rest =>
    if c = quote then (if run + 1 = size then .ok rest else stringTail quote size (run + 1) rest)
    else if c = 0x0A ∧ size = 1 then .error (c :: rest)
    else stringTail quote size 0 rest

def isTripled : Text → Bool
  | q :: a :: b :: _ => a == q && b == q
  | _ => false

/-- What follows a string that begins with this text, which is a quote at the latest. -/
def quotedTail (t : Text) : Except Text Text :=
  match t with
  | q :: a :: b :: rest =>
    if a = q then (if b = q then stringTail q 3 0 rest else .ok (b :: rest))
    else stringTail q 1 0 (a :: b :: rest)
  | q :: rest => stringTail q 1 0 rest
  | [] => .error []

def unterminated (isTripled : Bool) (line : Nat) : Text :=
  ("unterminated " : Text) ++ (if isTripled then "triple-quoted " else "" : Text) ++
    ("string literal (detected at line " : Text) ++ Text.ofNat line ++ (")" : Text)

def closing (c : Nat) : Nat := if c = 0x28 then 0x29 else c + 2

def unmatched (bracket : Nat) : Text := ("unmatched '" : Text) ++ bracket :: ("'" : Text)

def mismatched (bracket opening : Nat) : Text :=
  ("closing parenthesis '" : Text) ++ bracket :: ("' does not match opening parenthesis '" : Text) ++
    opening :: ("'" : Text)

def invalidSign (c : Nat) : Text :=
  let number := ("U+" : Text) ++ Text.hex true (if c < 0x10000 then 4 else if c < 0x100000 then 5 else 6) c
  if isPrintable c then ("invalid character '" : Text) ++ c :: ("' (" : Text) ++ number ++ (")" : Text)
  else ("invalid non-printable character " : Text) ++ number

/-- What the lexer reads in one step: tokens, and where it stands after them; a skipped line end has
no token. -/
abbrev Step := Except Ending (List Token × Place × Text)

/-- A token of `length` code points at the beginning of the text. -/
def take (kind : Kind) (length : Nat) (p : Place) (t : Text) : Step :=
  let text := t.take length
  .ok ([⟨kind,text,p.line,p.column,p.brackets.length⟩],p.past text,t.drop length)

def operator (p : Place) (t : Text) : Step :=
  if longOperators.any t.startsWith then take .operator 3 p t
  else if pairOperators.any t.startsWith then take .operator 2 p t
  else match t with
    | [] => .error (p.endsEarly t)
    | c :: _ =>
      if c = 0x28 ∨ c = 0x5B ∨ c = 0x7B then
        if maxBrackets ≤ p.brackets.length then .error (.fault p.line "too many nested parentheses")
        else take .operator 1 { p with brackets := (c,p.line) :: p.brackets } t
      else if c = 0x29 ∨ c = 0x5D ∨ c = 0x7D then
        match p.brackets with
        | [] => .error (.fault p.line (unmatched c))
        | (opening,line) :: outer =>
          if closing opening = c then take .operator 1 { p with brackets := outer } t
          else if line = p.line then .error (.fault p.line (mismatched c opening))
          else .error (.fault p.line (mismatched c opening ++ (" on line " : Text) ++ Text.ofNat line))
      else if isPrintable c then take .operator 1 p t
      else .error (.fault p.line (invalidSign c))

/-- The token at the beginning of the text, which is no blank, comment or line end. -/
def word (p : Place) (t : Text) : Step :=
  match t with
  | [] => .error (p.endsEarly t)
  | c :: rest =>
    let string (quoted : Text) : Step :=
      match quotedTail quoted with
      | .error rest =>
        let found := (p.past (t.take (t.length - rest.length))).shownLine rest
        .error (.fault p.line (unterminated (isTripled quoted) found))
      | .ok after => take .string (t.length - after.length) p t
    if beginsWord c then
      match stringHead? false false false false t with
      | some quoted => string quoted
      | none =>
        let name := t.takeWhile continuesWord
        match Text.foreignPoint? name with
        | none => take (if keywords.contains name then .keyword else .name) name.length p t
        | some c => .error (.fault p.line (invalidSign c))
    else if Text.isDigit c || (c == 0x2E && rest.head?.any Text.isDigit) then
      match numberTail t with
      | .error wording => .error (.fault p.line wording)
      | .ok after => take .number (t.length - after.length) p t
    else if c = 0x27 ∨ c = 0x22 then string t
    else operator p t

/-- The next tokens inside a line; `blank` tells that the line holds nothing but a comment. -/
def inLine (fuel : Nat) (blank : Bool) (p : Place) (t : Text) : Step :=
  match fuel with
  | 0 => .error (.fault p.line [])
  | fuel + 1 =>
    match t with
    | [] =>
      match p.opened with
      | some _ => .error (p.endsEarly t)
      | none => .ok ([⟨.finish,[],p.shownLine t,0,0⟩],p,[])
    | 0x0A :: rest =>
      let after := { p.nextLine with atLineStart := true }
      if blank || !p.brackets.isEmpty then .ok ([],after,rest)
      else .ok ([⟨.newline,[],p.line,p.column,0⟩],after,rest)
    | 0x23 :: rest =>
      let comment := rest.takeWhile (· ≠ 0x0A)
      inLine fuel blank (p.forward (comment.length + 1)) (rest.drop comment.length)
    | 0x5C :: rest =>
      match continueLine (p.forward 1) rest with
      | .error e => .error e
      | .ok (p,rest) => inLine fuel blank p rest
    | c :: rest =>
      if c = 0x20 ∨ c = 0x09 ∨ c = 0x0C then inLine fuel blank (p.forward 1) rest else word p t

/-- The next tokens: those of the indentation at the beginning of a line, or one inside a line.  The
fuel exceeds the length of the text. -/
def step (fuel : Nat) (p : Place) (t : Text) : Step :=
  if p.atLineStart then
    match readIndent fuel p 0 {} t with
    | .error e => .error e
    | .ok (p,joined,i,t) =>
      let p := { p with atLineStart := false }
      let blank := t.head? = some 0x23 || t.head? = some 0x0A
      if blank || !p.brackets.isEmpty then inLine fuel blank p t
      else
        match indentation p (if joined = 0 then i else ⟨joined,joined⟩) t with
        | .error e => .error e
        | .ok (p,kinds) =>
          .ok (kinds.map fun kind => ⟨kind,[],p.shownLine t,p.column,0⟩,p,t)
  else inLine fuel false p t

/-- Tokens are read until the text ends or no token can be read. -/
def lexFrom (fuel : Nat) (read : List Token) (p : Place) (t : Text) : List Token × Ending :=
  match fuel with
  | 0 => (read.reverse,.complete)
  | fuel + 1 =>
    match step fuel p t with
    | .error e => (read.reverse,e)
    | .ok (tokens,after,rest) =>
      if tokens.any (·.kind = .finish) then ((tokens.reverse ++ read).reverse,.complete)
      else lexFrom fuel (tokens.reverse ++ read) after rest

/-- The tokens of a text that has line feeds as its only line ends. -/
def lexLines (line : Nat) (t : Text) : Tokens :=
  let (tokens,ending) := lexFrom (2 * t.length + 4) [] { line } t
  ⟨tokens.toArray,ending⟩

/-- The tokens of a text whose first line has a given number. -/
def lex (line : Nat) (t : Text) : Tokens := lexLines line (normalize t)

end ApiDocs.Source
