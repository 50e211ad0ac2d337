import ApiDocs.Text.Basic
/-!
Texts that are alike.

Two texts are compared by their longest common block, by the longest common blocks in front of it and
behind it, and so on.  They are alike when at least three fifths of their code points are in such
blocks.
-/

namespace ApiDocs.Text

def sharedHead : Text → Text → Nat
  | a :: s, b :: t => if a = b then sharedHead s t + 1 else 0
  | _, _ => 0

/-- A block that two texts share: where it begins in them, and its length. -/
structure Block where
  first : Nat
  second : Nat
  size : Nat
  deriving DecidableEq, Repr

/-- The longest block that two texts share; of several the first in the first text, and then in the
second. -/
def longestBlock (s t : Text) : Block :=
  (List.range s.length).foldl (fun best i =>
    (List.range t.length).foldl (fun best j =>
      let size := sharedHead (s.drop i) (t.drop j)
      if best.size < size then ⟨i,j,size⟩ else best) best) ⟨0,0,0⟩

/-- The number of code points in common blocks.  The fuel is the length of the first text. -/
def sharedWithin : (fuel : Nat) → Text → Text → Nat
  | 0, _, _ => 0
  | fuel + 1, s, t =>
    let b := longestBlock s t
    if b.size = 0 then 0
    else sharedWithin fuel (s.take b.first) (t.take b.second) + b.size +
      sharedWithin fuel (s.drop (b.first + b.size)) (t.drop (b.second + b.size))

def shared (s t : Text) : Nat := sharedWithin s.length s t

/-- Three fifths of the code points of two texts are in common blocks. -/
def isAlike (s t : Text) : Bool := 3 * (s.length + t.length) ≤ 10 * shared s t

/-- The first text is more like the word than the second, or as much and greater. -/
def isCloser (word s t : Text) : Bool :=
  let a := shared s word * (t.length + word.length)
  let b := shared t word * (s.length + word.length)
  b < a || (a == b && le t s)

/-- Up to three of the choices that are most like a word, the closest first. -/
def alikeOf (word : Text) (choices : List Text) : List Text :=
  ((choices.filter (isAlike · word)).mergeSort (isCloser word)).take 3

end ApiDocs.Text
