import ApiDocs.Text.Basic
/-!
Regular patterns of texts.

A pattern is matched by derivatives: what is left to match after each code point.
-/

namespace ApiDocs

/-- A regular pattern. -/
inductive Pattern where
  | nothing
  | empty
  | oneOf (points : Nat → Bool)
  | seq (p q : Pattern)
  | alt (p q : Pattern)
  | many (p : Pattern)

namespace Pattern

def point (c : Nat) : Pattern := .oneOf (· == c)

def among (t : Text) : Pattern := .oneOf t.contains

def literal (t : Text) : Pattern := t.foldr (fun c p => .seq (point c) p) .empty

def words (ts : List Text) : Pattern := ts.foldr (fun t p => .alt (literal t) p) .nothing

def all (ps : List Pattern) : Pattern := ps.foldr .seq .empty

def any (ps : List Pattern) : Pattern := ps.foldr .alt .nothing

def optional (p : Pattern) : Pattern := .alt p .empty

def some (p : Pattern) : Pattern := .seq p (.many p)

def times : Nat → Pattern → Pattern
  | 0, _ => .empty
  | n + 1, p => .seq p (times n p)

/-- The empty text matches. -/
def acceptsEmpty : Pattern → Bool
  | nothing => false
  | empty => true
  | oneOf _ => false
  | seq p q => p.acceptsEmpty && q.acceptsEmpty
  | alt p q => p.acceptsEmpty || q.acceptsEmpty
  | many _ => true

/-- `seq`, where a part that cannot match or matches only the empty text is left out. -/
def seqOf : Pattern → Pattern → Pattern
  | nothing, _ => nothing
  | _, nothing => nothing
  | empty, q => q
  | p, q => seq p q

/-- `alt`, where a part that cannot match is left out. -/
def altOf : Pattern → Pattern → Pattern
  | nothing, q => q
  | p, nothing => p
  | p, q => alt p q

/-- What has to follow the code point for the pattern to match. -/
def derivative (c : Nat) : Pattern → Pattern
  | nothing => nothing
  | empty => nothing
  | oneOf points => if points c then empty else nothing
  | seq p q =>
    let head := seqOf (p.derivative c) q
    if p.acceptsEmpty then altOf head (q.derivative c) else head
  | alt p q => altOf (p.derivative c) (q.derivative c)
  | many p => seqOf (p.derivative c) (many p)

def isNothing : Pattern → Bool
  | nothing => true
  | _ => false

/-- The whole text matches. -/
def fits (p : Pattern) : Text → Bool
  | [] => p.acceptsEmpty
  | c :: rest =>
    let q := p.derivative c
    if q.isNothing then false else q.fits rest

end Pattern

end ApiDocs
