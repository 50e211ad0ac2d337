import ApiDocs.Text.Decomposition
/-!
Identifiers in one spelling.

Two spellings of an identifier that differ only in style, or in whether a letter and its mark are one
code point, name the same thing: the code points are decomposed, marks are sorted by their classes, and
letters and marks are composed again.
-/

namespace ApiDocs.Text

def insertMark (c : Nat) : Text → Text
  | [] => [c]
  | d :: rest =>
    if markClass d ≠ 0 ∧ markClass d < markClass c then d :: insertMark c rest else c :: d :: rest

/-- Marks next to each other are sorted by class; those of one class keep their order. -/
def sortMarks (t : Text) : Text := t.foldr insertMark []

/-- Two letters of a Hangul syllable, or a syllable without a last letter and a last letter, compose
to a syllable. -/
def composeHangul? (a b : Nat) : Option Nat :=
  if 0x1100 ≤ a ∧ a < 0x1113 ∧ 0x1161 ≤ b ∧ b < 0x1176 then
    some (hangulBase + ((a - 0x1100) * 21 + (b - 0x1161)) * 28)
  else if hangulBase ≤ a ∧ a < hangulBase + 11172 ∧ (a - hangulBase) % 28 = 0 ∧
      0x11A8 ≤ b ∧ b < 0x11C3 then
    some (a + (b - 0x11A7))
  else none

def composePair? (a b : Nat) : Option Nat :=
  match composeHangul? a b with
  | some c => some c
  | none => (letterTable.find? fun m => m.parts == [a,b]).map fun m => m.range.first

/-- A code point is composed with what follows it.  `marks` are the marks behind it that were not
composed, reversed, and `lastClass` is the class of the last one: a mark of the same or a lower class is
kept apart by them. -/
def composeFrom (c : Nat) (marks : Text) (lastClass : Nat) : Text → Text
  | [] => c :: marks.reverse
  | d :: rest =>
    let dClass := markClass d
    match (if marks.isEmpty ∨ lastClass < dClass then composePair? c d else none) with
    | some composed => composeFrom composed marks lastClass rest
    | none =>
      if dClass = 0 then c :: marks.reverse ++ composeFrom d [] 0 rest
      else composeFrom c (d :: marks) dClass rest

/-- An identifier in its one spelling. -/
def canonicalName (t : Text) : Text :=
  if t.all (· < 0x80) then t
  else match sortMarks (t.flatMap (decomposed maxDecompositionSteps)) with
    | [] => []
    | c :: rest => composeFrom c [] 0 rest

end ApiDocs.Text
