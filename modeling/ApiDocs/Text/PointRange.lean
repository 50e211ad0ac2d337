import ApiDocs.Text.Basic
/-!
Sets of code points, written as ranges.

A table is a text of hexadecimal numbers and pairs of them, `41-5a b5`, in ascending order.
-/

namespace ApiDocs

/-- The code points from `first` to `last`, both included. -/
structure PointRange where
  first : Nat
  last : Nat
  deriving DecidableEq, Repr

namespace PointRange

def covers (ranges : List PointRange) (c : Nat) : Bool :=
  ranges.any fun r => r.first ≤ c && c ≤ r.last

def number (t : Text) : Nat := t.foldl (fun n c => 16 * n + (Text.hexValue? c).getD 0) 0

/-- The range that `a-b` or a single number writes. -/
def ofEntry (t : Text) : PointRange :=
  match Text.splitOn 0x2D t with
  | [a,b] => ⟨number a,number b⟩
  | _ => ⟨number t,number t⟩

def ofTable (lines : List String) : List PointRange :=
  lines.flatMap fun (line : String) => (Text.splitOn 0x20 line).map ofEntry

end PointRange

end ApiDocs
