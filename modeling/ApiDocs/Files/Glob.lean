import ApiDocs.Text.Basic
/-!
File name patterns.

A star stands for any text, a question mark for one code point, and brackets for one code point out of a
set, or not out of it when an exclamation mark comes first; everything else stands for itself.  A
pattern is matched against whole names, and case counts.
-/

namespace ApiDocs

/-- A set of code points: those in one of the ranges, or those in none. -/
structure PointSet where
  isNegated : Bool := false
  ranges : List (Nat × Nat) := []
  deriving DecidableEq, Repr

def PointSet.covers (s : PointSet) (c : Nat) : Bool :=
  s.isNegated != s.ranges.any fun r => r.1 ≤ c && c ≤ r.2

namespace Glob

/-- A part of a pattern. -/
inductive Item where
  | star
  | one (points : PointSet)
  deriving DecidableEq, Repr

def anyPoint : Item := .one ⟨true,[]⟩

/-! ## Reading a pattern -/

/-- A sign between brackets: a code point, or a hyphen between the ends of a range. -/
inductive Sign where
  | point (c : Nat)
  | hyphen
  deriving DecidableEq, Repr

/-- The code point that a sign stands for outside of a range. -/
def Sign.plain : Sign → Nat
  | .point c => c
  | .hyphen => 0x2D

def rangesOf : List Sign → List (Nat × Nat)
  | [] => []
  | [s] => [(s.plain,s.plain)]
  | [s,t] => [(s.plain,s.plain),(t.plain,t.plain)]
  | s :: .hyphen :: t :: rest => (s.plain,t.plain) :: rangesOf rest
  | s :: rest => (s.plain,s.plain) :: rangesOf rest

/-- The text in front of the first hyphen that is not among the first `skip` signs, and what follows it. -/
def splitHyphen (skip : Nat) (t : Text) : Option (Text × Text) :=
  let head := (t.drop skip).takeWhile (· ≠ 0x2D)
  match (t.drop skip).drop head.length with
  | _ :: rest => some (t.take skip ++ head,rest)
  | [] => none

/-- The texts between the hyphens that spell ranges: of a hyphen's two neighbours neither belongs to
another range.  A hyphen at the end belongs to the text in front of it.  The fuel exceeds the length of
the text. -/
def chunks (fuel skip : Nat) (t : Text) : List Text :=
  match fuel with
  | 0 => [t]
  | fuel + 1 =>
    match splitHyphen skip t with
    | none => [t]
    | some (chunk,[]) => [chunk ++ [0x2D]]
    | some (chunk,rest) => chunk :: chunks fuel 2 rest

/-- Ranges whose ends are in the wrong order are dropped with their ends. -/
def dropEmpty : List Text → List Text
  | [] => []
  | chunk :: rest =>
    match dropEmpty rest with
    | [] => [chunk]
    | next :: more =>
      match chunk.getLast?, next with
      | some a, b :: tail =>
        if b < a then (chunk.dropLast ++ tail) :: more else chunk :: next :: more
      | _, _ => chunk :: next :: more

def signsOf (cs : List Text) : List Sign := [Sign.hyphen].intercalate (cs.map (·.map .point))

/-- The part of a pattern that a text between brackets spells; an exclamation mark negates it that
comes first once empty ranges are dropped. -/
def bracket (t : Text) : Item :=
  let skip := if t.head? = some 0x21 then 2 else 1
  let signs :=
    if t.contains 0x2D then signsOf (dropEmpty (chunks (t.length + 1) skip t)) else t.map Sign.point
  if signs.head? = some (.point 0x21) then .one ⟨true,rangesOf (signs.drop 1)⟩
  else .one ⟨false,rangesOf signs⟩

/-- The text between an opening bracket and the closing one, and what follows it; a closing bracket
that comes first, also behind an exclamation mark, is part of the text. -/
def splitBracket (t : Text) : Option (Text × Text) :=
  let mark := if t.head? = some 0x21 then 1 else 0
  let first := if (t.drop mark).head? = some 0x5D then mark + 1 else mark
  let inner := t.take first ++ (t.drop first).takeWhile (· ≠ 0x5D)
  match t.drop inner.length with
  | _ :: rest => some (inner,rest)
  | [] => none

/-- The parts of a pattern.  An opening bracket without a closing one stands for itself.  The fuel
exceeds the length of the text. -/
def read (fuel : Nat) (t : Text) : List Item :=
  match fuel with
  | 0 => []
  | fuel + 1 =>
    match t with
    | [] => []
    | c :: rest =>
      if c = 0x2A then .star :: read fuel rest
      else if c = 0x3F then anyPoint :: read fuel rest
      else if c = 0x5B then
        match splitBracket rest with
        | some (inner,rest) => bracket inner :: read fuel rest
        | none => .one ⟨false,[(c,c)]⟩ :: read fuel rest
      else .one ⟨false,[(c,c)]⟩ :: read fuel rest

/-! ## Matching -/

/-- The parts of a pattern behind which a match can stand at the beginning of a text, in a row of truth
values with one in front of all parts; `reached` is the first of them. -/
def start : List Item → (reached : Bool) → List Bool
  | [], reached => [reached]
  | .star :: rest, reached => reached :: start rest reached
  | .one _ :: rest, reached => reached :: start rest false

/-- The parts behind which a match can stand after one more code point. -/
def advance (c : Nat) : List Item → List Bool → (reached : Bool) → List Bool
  | .star :: rest, old :: olds, reached =>
    let reached := reached || old
    reached :: advance c rest olds reached
  | .one points :: rest, old :: olds, reached =>
    reached :: advance c rest olds (old && points.covers c)
  | _, _, reached => [reached]

/-- The parts match the whole text. -/
def fits (items : List Item) (t : Text) : Bool :=
  ((t.foldl (fun row c => advance c items row false) (start items true)).getLast?).getD false

def accepts (pattern name : Text) : Bool := fits (read (pattern.length + 1) pattern) name

end Glob

end ApiDocs
