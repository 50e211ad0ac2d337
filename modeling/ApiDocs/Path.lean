import ApiDocs.Text.Basic
/-!
Paths as they are spelled.

A path is read into the names between its slashes; empty names and single points are dropped, two
points are kept.  No file is looked at.
-/

namespace ApiDocs

/-- A path: how many slashes it begins with (none, one, or exactly two), and the names after them. -/
structure Path where
  slashes : Nat := 0
  names : List Text
  deriving DecidableEq, Repr

namespace Path

/-- The names between slashes that count. -/
def namesOf (t : Text) : List Text :=
  (Text.splitOn 0x2F t).filter fun name => !name.isEmpty && name != [0x2E]

/-- The path that a text spells; three and more slashes at the beginning count as one. -/
def ofText (t : Text) : Path :=
  let slashes := (t.takeWhile (· == 0x2F)).length
  ⟨if 2 < slashes then 1 else slashes,namesOf t⟩

/-- The spelling of a path; a relative path without names is a point. -/
def toText (p : Path) : Text :=
  if p.slashes = 0 ∧ p.names.isEmpty then [0x2E]
  else Text.repeated p.slashes 0x2F ++ Text.join [0x2F] p.names

def isAbsolute (p : Path) : Bool := p.slashes ≠ 0

def join (p q : Path) : Path :=
  if q.isAbsolute then q else ⟨p.slashes,p.names ++ q.names⟩

def name (p : Path) : Text := p.names.getLast?.getD []

def parent (p : Path) : Path := ⟨p.slashes,p.names.dropLast⟩

/-- The last point of a name and what follows it, unless the point is the first or the last sign. -/
def suffixOf (name : Text) : Text :=
  let tail := (name.reverse.takeWhile (· ≠ 0x2E)).reverse
  if tail.isEmpty || name.length ≤ tail.length + 1 then [] else 0x2E :: tail

def suffix (p : Path) : Text := suffixOf p.name

end Path

end ApiDocs
