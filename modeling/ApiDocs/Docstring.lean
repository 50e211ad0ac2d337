import ApiDocs.Text.Blank
/-!
Docstrings without the indentation of the code around them.

Tabs become blanks, the lines after the first lose the indentation that all of them share, and empty
lines at both ends are dropped.
-/

namespace ApiDocs.Docstring

def tabWidth : Nat := 8

/-- Tabs become blanks up to the next tab stop; columns are counted from the last line feed or
carriage return. -/
def expandTabs (column : Nat) : Text → Text
  | [] => []
  | c :: rest =>
    if c = 0x09 then
      let width := tabWidth - column % tabWidth
      Text.repeated width 0x20 ++ expandTabs (column + width) rest
    else if c = 0x0A ∨ c = 0x0D then c :: expandTabs 0 rest
    else c :: expandTabs (column + 1) rest

def indent? (line : Text) : Option Nat :=
  let content := line.trimLeft
  if content.isEmpty then none else some (line.length - content.length)

/-- The indentation that all lines share which are not blank; `none` when every line is blank. -/
def margin? (lines : List Text) : Option Nat := (lines.filterMap indent?).min?

def trimEmpty (lines : List Text) : List Text :=
  ((lines.reverse.dropWhile List.isEmpty).reverse).dropWhile List.isEmpty

/-- A docstring without indentation. -/
def clean (t : Text) : Text :=
  match (expandTabs 0 t).splitOn 0x0A with
  | [] => []
  | first :: rest =>
    let rest := match margin? rest with
      | some margin => rest.map (·.drop margin)
      | none => rest
    Text.join [0x0A] (trimEmpty (first.trimLeft :: rest))

end ApiDocs.Docstring
