import ApiDocs.Console.Cell
import ApiDocs.Text.Blank
/-!
Text in lines of limited width.

A line is broken between words, where the blanks behind a word belong to it.  A word that fits on no
line is folded over several lines or cut, as the layout says.
-/

namespace ApiDocs.Console

inductive Overflow where
  | fold
  | ellipsis
  deriving DecidableEq, Repr

structure Layout where
  width : Nat
  overflow : Overflow := .fold
  isWrapped : Bool := true
  isFilled : Bool := false
  deriving DecidableEq, Repr

/-! ## Tabulators -/

def tabDistance : Nat := 8

/-- The text in front of the next tabulator, whose blanks reach to the next stop. -/
def expandTabsFrom (column : Nat) : List Text → Text
  | [] => []
  | [last] => last
  | part :: rest =>
    let used := column + width part
    let gap := tabDistance - used % tabDistance
    part ++ Text.repeated gap 0x20 ++ expandTabsFrom (used + gap) rest

def expandTabs (line : Text) : Text := expandTabsFrom 0 (Text.splitOn 9 line)

/-! ## Words -/

/-- A chunk that is being read, reversed, in front of the chunks that follow it; `hasWord` when there
is a word in it, and `isOver` when blanks came behind the word. -/
def chunksFrom (chunk : Text) (hasWord isOver : Bool) : Text → List Text
  | [] => if chunk.isEmpty then [] else [chunk.reverse]
  | c :: rest =>
    if isBlank c then chunksFrom (c :: chunk) hasWord hasWord rest
    else if isOver then chunk.reverse :: chunksFrom [c] true false rest
    else chunksFrom (c :: chunk) true false rest

/-- The words of a line with the blanks behind them, the first one also with those in front. -/
def chunks (line : Text) : List Text := chunksFrom [] false false line

/-! ## Breaking -/

/-- The lines that are full, the last one first, and the one that is being filled, with the cells that
count as used in it. -/
structure Filling where
  full : List Text := []
  line : Text := []
  used : Nat := 0
  deriving Repr

namespace Filling

def isFresh (f : Filling) : Bool := f.full.isEmpty && f.line.isEmpty

def next (f : Filling) (t : Text) : Filling :=
  { full := if f.isFresh then f.full else f.line :: f.full, line := t, used := Console.width t }

/-- A word is put on the line, or on the next one, or folded. -/
def add (width : Nat) (overflow : Overflow) (f : Filling) (word : Text) : Filling :=
  let needed := Console.width word.trimRight
  if needed + f.used ≤ width then
    { f with line := f.line ++ word, used := f.used + Console.width word }
  else if needed ≤ width then f.next word
  else match overflow with
    | .fold => (pieces width word).foldl next f
    | .ellipsis => f.next word

def lines (f : Filling) : List Text := (f.line :: f.full).reverse

end Filling

def broken (width : Nat) (overflow : Overflow) (line : Text) : List Text :=
  ((chunks line).foldl (Filling.add width overflow) {}).lines

def dropExcessBlanks (width : Nat) (line : Text) : Text :=
  let blanks := (line.reverse.takeWhile isBlank).length
  line.take (line.length - min blanks (line.length - width))

/-- The line is cut to the width. -/
def cut (width : Nat) (overflow : Overflow) (line : Text) : Text :=
  if Console.width line ≤ width then line
  else match overflow with
    | .fold => fit width line
    | .ellipsis => fit (width - 1) line ++ [0x2026]

/-- A line without line feeds in the lines of a layout. -/
def Layout.ofLine (l : Layout) (line : Text) : List Text :=
  let line := expandTabs line
  let lines := if l.isWrapped then broken l.width l.overflow line else [line]
  lines.map fun line =>
    let line := cut l.width l.overflow (dropExcessBlanks l.width line)
    if l.isFilled then line ++ Text.repeated (l.width - Console.width line) 0x20 else line

def Layout.lines (l : Layout) (t : Text) : List Text := (Text.splitOn 10 t).flatMap l.ofLine

end ApiDocs.Console
