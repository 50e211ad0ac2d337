import ApiDocs.Yaml.Scalar
/-!
Writing values as YAML in block style.

The writer keeps track of the column and of what stands in front of it; a blank in a text becomes a
line break once the line has passed the width of 80 columns.
-/

namespace ApiDocs.Yaml

/-- The column after which lines are folded. -/
def width : Nat := 80

def step : Nat := 2

/-- What was written so far, reversed, and where the next sign goes. -/
structure Cursor where
  written : Text := []
  column : Nat := 0
  /-- White space stands in front, or nothing at all. -/
  afterBlank : Bool := true
  /-- Only indentation and indicators stand on the line. -/
  atIndentation : Bool := true

namespace Cursor

def put (c : Cursor) (t : Text) : Cursor :=
  { c with written := t.reverse ++ c.written, column := c.column + t.length }

def breakLine (c : Cursor) (mark : Nat) : Cursor :=
  ⟨mark :: c.written,0,true,true⟩

/-- The cursor is brought to a column of indentation, on a new line unless it is still in front of
that column. -/
def indentTo (c : Cursor) (indent : Nat) : Cursor :=
  let c :=
    if !c.atIndentation || indent < c.column || (c.column == indent && !c.afterBlank) then
      c.breakLine 0x0A
    else c
  if c.column < indent then
    { c.put (Text.repeated (indent - c.column) 0x20) with afterBlank := true }
  else c

/-- An indicator, with a blank in front where one is needed. -/
def indicator (c : Cursor) (t : Text) (spaced : Bool) : Cursor :=
  let c := if c.afterBlank || !spaced then c.put t else c.put (0x20 :: t)
  { c with afterBlank := false, atIndentation := false }

/-- An indicator that leaves the line at its indentation if it was there. -/
def entry (c : Cursor) (t : Text) : Cursor :=
  { c.indicator t true with atIndentation := c.atIndentation }

def inText (c : Cursor) : Cursor := { c with afterBlank := false, atIndentation := false }

end Cursor

/-- The parts of a text: runs of blanks, runs of breaks, and what is between them. -/
inductive Run where
  | blanks (count : Nat)
  | breaks (marks : Text)
  | word (t : Text)
  deriving Repr

def Run.cons (c : Nat) (runs : List Run) : List Run :=
  if c = 0x20 then
    match runs with
    | .blanks n :: rest => .blanks (n + 1) :: rest
    | _ => .blanks 1 :: runs
  else if isBreak c then
    match runs with
    | .breaks marks :: rest => .breaks (c :: marks) :: rest
    | _ => .breaks [c] :: runs
  else
    match runs with
    | .word t :: rest => .word (c :: t) :: rest
    | _ => .word [c] :: runs

def runs (t : Text) : List Run := t.foldr Run.cons []

/-- A plain text of one line; `indent` is where a folded line begins. -/
def writePlain (c : Cursor) (indent : Nat) (fold : Bool) (t : Text) : Cursor :=
  let c := (if c.afterBlank then c else c.put [0x20]).inText
  (runs t).foldl
    (fun c run =>
      match run with
      | .word t => c.put t
      | .blanks n =>
        if n = 1 && width < c.column && fold then (c.indentTo indent).inText
        else c.put (Text.repeated n 0x20)
      | .breaks _ => c)
    c

/-- The runs of a text between single quotes; `first` tells that no run stands in front. -/
def writeSingleRuns (indent : Nat) (fold : Bool) : (first : Bool) → Cursor → List Run → Cursor
  | _, c, [] => c
  | first, c, run :: rest =>
    let c := match run with
      | .word t => c.put (Text.substitute 0x27 [0x27,0x27] t)
      | .blanks n =>
        if n = 1 && width < c.column && fold && !first && !rest.isEmpty then c.indentTo indent
        else c.put (Text.repeated n 0x20)
      | .breaks marks =>
        let c := if marks.head? = some 0x0A then c.breakLine 0x0A else c
        (marks.foldl Cursor.breakLine c).indentTo indent
    writeSingleRuns indent fold false c rest

/-- A text between single quotes: a quote is written twice, a line break as an empty line. -/
def writeSingle (c : Cursor) (indent : Nat) (fold : Bool) (t : Text) : Cursor :=
  (writeSingleRuns indent fold true (c.indicator [0x27] true) (runs t)).indicator [0x27] false

def escapeLetters : List (Nat × Nat) :=
  [(0x00,0x30),(0x07,0x61),(0x08,0x62),(0x09,0x74),(0x0A,0x6E),(0x0B,0x76),
    (0x0C,0x66),(0x0D,0x72),(0x1B,0x65),(0x22,0x22),(0x5C,0x5C),(0x85,0x4E),
    (0xA0,0x5F),(0x2028,0x4C),(0x2029,0x50)]

/-- The escape of a code point between double quotes, if it needs one. -/
def escape? (c : Nat) : Option Text :=
  let plain := (0x20 ≤ c && c ≤ 0x7E) || (0xA0 ≤ c && c ≤ 0xD7FF) || (0xE000 ≤ c && c ≤ 0xFFFD)
  if plain && !([0x22,0x5C,0x2028,0x2029,0xFEFF].contains c) then none
  else match escapeLetters.lookup c with
    | some letter => some [0x5C,letter]
    | none =>
      if c ≤ 0xFF then some (0x5C :: 0x78 :: Text.hex true 2 c)
      else if c ≤ 0xFFFF then some (0x5C :: 0x75 :: Text.hex true 4 c)
      else some (0x5C :: 0x55 :: Text.hex true 8 c)

/-- The line is folded inside double quotes: a backslash ends it, and another one keeps a blank that
would begin the next line. -/
def foldDouble (c : Cursor) (indent : Nat) (next : Option Nat) : Cursor :=
  let c := ((c.put [0x5C]).indentTo indent).inText
  if next = some 0x20 then c.put [0x5C] else c

/-- The rest of a text between double quotes.  `held` are code points that are not written yet,
reversed; `afterEscape` tells that there are none because an escape was written last; `first` tells
that nothing stands in front. -/
def writeDoubleFrom (indent : Nat) (fold : Bool) :
    (first : Bool) → Cursor → (held : Text) → Text → Cursor
  | _, c, held, [] => c.put held.reverse
  | first, c, held, x :: rest =>
    let inside := !first && !rest.isEmpty && fold
    match escape? x with
    | some e =>
      let c := (c.put held.reverse).put e
      let c := if inside && width + 1 < c.column then foldDouble c indent rest.head? else c
      writeDoubleFrom indent fold false c [] rest
    | none =>
      if inside && (x == 0x20 || held.isEmpty) && width < c.column + held.length then
        let c := foldDouble (c.put held.reverse) indent (some x)
        writeDoubleFrom indent fold false c [x] rest
      else writeDoubleFrom indent fold false c (x :: held) rest

def writeDouble (c : Cursor) (indent : Nat) (fold : Bool) (t : Text) : Cursor :=
  (writeDoubleFrom indent fold true (c.indicator [0x22] true) [] t).indicator [0x22] false

/-- A text in the style that it needs; the key of a one-line member is not folded. -/
def writeText (c : Cursor) (indent : Nat) (asKey : Bool) (t : Text) : Cursor :=
  match styleOf t asKey with
  | .plain => writePlain c indent (!asKey) t
  | .single => writeSingle c indent (!asKey) t
  | .double => writeDouble c indent (!asKey) t

/-- The least length of a name that does not stand on one line with its value. -/
def longName : Nat := 123

def isShortName (name : Text) : Bool :=
  !name.isEmpty && !isMultiline name && name.length < longName

def inner : Option Nat → Nat
  | none => 0
  | some indent => indent + step

mutual

/-- A value inside another one with the given indentation; the items of an array that is the value
of a member are not indented further. -/
def writeNode (outer : Option Nat) (asMember : Bool) (c : Cursor) : Value → Cursor
  | .str t => writeText c (outer.getD 0 + step) false t
  | .arr items =>
    if items.isEmpty then
      { c.indicator [0x5B] true with afterBlank := true }.indicator [0x5D] false
    else
      writeItems (if asMember && !c.atIndentation then outer.getD 0 else inner outer) c items
  | .obj members =>
    if members.isEmpty then
      { c.indicator [0x7B] true with afterBlank := true }.indicator [0x7D] false
    else writeMembers (inner outer) c members
  | v => writePlain c (outer.getD 0 + step) true (atom v)

def writeItems (indent : Nat) (c : Cursor) : List Value → Cursor
  | [] => c
  | v :: rest =>
    let c := (c.indentTo indent).entry [0x2D]
    writeItems indent (writeNode (some indent) false c v) rest

/-- The members of an object: names in front of a colon, or behind a question mark when they are
empty, long or of several lines. -/
def writeMembers (indent : Nat) (c : Cursor) : List (Text × Value) → Cursor
  | [] => c
  | (name,v) :: rest =>
    let c := c.indentTo indent
    let c :=
      if isShortName name then
        (writeText c (indent + step) true name).indicator [0x3A] false
      else
        ((writeText (c.entry [0x3F]) (indent + step) false name).indentTo indent).entry [0x3A]
    writeMembers indent (writeNode (some indent) true c v) rest

end

/-- A value as a document of its own, ended by a line break. -/
def text (v : Value) : Text := ((writeNode none false {} v).indentTo 0).written.reverse

end ApiDocs.Yaml
