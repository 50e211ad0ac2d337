import ApiDocs.Text.PointRange
/-!
Decimal digits of all scripts.
-/

namespace ApiDocs

/-- The zeros of the scripts; the other nine digits of each follow its zero. -/
def zeroRanges : List PointRange := PointRange.ofTable
  ["30 660 6f0 7c0 966 9e6 a66 ae6 b66 be6 c66 ce6 d66 de6 e50 ed0 f20 1040 1090 17e0 1810 1946",
   "19d0 1a80 1a90 1b50 1bb0 1c40 1c50 a620 a8d0 a900 a9d0 a9f0 aa50 abf0 ff10 104a0 10d30 11066",
   "110f0 11136 111d0 112f0 11450 114d0 11650 116c0 11730 118e0 11950 11c50 11d50 11da0 16a60",
   "16ac0 16b50 1d7ce 1d7d8 1d7e2 1d7ec 1d7f6 1e140 1e2f0 1e950 1fbf0"]

/-- The value of a decimal digit of any script. -/
def decimalValue? (c : Nat) : Option Nat :=
  (zeroRanges.find? fun r => r.first ≤ c && c < r.first + 10).map fun r => c - r.first

end ApiDocs
