import ApiDocs.Source.Grammar
import ApiDocs.Source.Parser
import ApiDocs.Text.Composition
import ApiDocs.Text.Utf8
/-!
Values written down.

An expression writes a value when it consists of literals, of brackets around values, and of signs and
sums as far as a number is written with them.  What is in a set or is a key of a dictionary has to be
hashable, which lists, sets and dictionaries are not.
-/

namespace ApiDocs.Source

inductive WrittenNumber where
  | integer (magnitude : Nat)
  | real
  | imaginary
  deriving DecidableEq, Repr

/-- The first integer too large for binary64: halfway from its greatest number to the next power of two. -/
def integerBound : Nat := (1 <<< 1024) - (1 <<< 970)

namespace WrittenNumber

def ofLiteral (spelled : Text) : WrittenNumber :=
  let small := fun (c : Nat) => if 0x41 ≤ c ∧ c ≤ 0x5A then c + 0x20 else c
  let signs := (spelled.filter (· ≠ 0x5F)).map small
  let inBase (base : Nat) (digits : Text) : Nat :=
    digits.foldl (fun n c => base * n + (Text.hexValue? c).getD 0) 0
  match signs with
  | 0x30 :: 0x78 :: digits => integer (inBase 16 digits)
  | 0x30 :: 0x6F :: digits => integer (inBase 8 digits)
  | 0x30 :: 0x62 :: digits => integer (inBase 2 digits)
  | digits =>
    if digits.getLast? = some 0x6A then imaginary
    else if digits.all Text.isDigit then integer (inBase 10 digits)
    else real

/-- An imaginary number can be added to this one. -/
def joinsImaginary : WrittenNumber → Bool
  | integer magnitude => magnitude < integerBound
  | real => true
  | imaginary => false

end WrittenNumber

namespace Tree

def number? : Tree → Option WrittenNumber
  | node (.number spelled) _ _ _ => some (.ofLiteral spelled)
  | _ => none

def signedNumber? : Tree → Option WrittenNumber
  | node .signed _ _ [_,operand] => operand.number?
  | t => t.number?

def isComplex : Tree → Bool
  | node .sum _ _ [left,node .row _ _ [_,right]] =>
    left.signedNumber?.any WrittenNumber.joinsImaginary && right.number? = some .imaginary
  | _ => false

def isEmptySet : Tree → Bool
  | node .call _ _ [node (.name id) _ _ _,node .row _ _ [_,node .absent _ _ _,_]] =>
    Text.canonicalName id = ("set" : Text)
  | _ => false

mutual

/-- Whether the value that a tree writes is hashable; `none` when it writes no value. -/
def hashable? : Tree → Option Bool
  | leaf _ => none
  | node label line column parts =>
    match label with
    | .text _ | .octets | .constant _ | .number _ => some true
    | .signed => (signedNumber? (node label line column parts)).map fun _ => true
    | .sum => if isComplex (node label line column parts) then some true else none
    | .call => if isEmptySet (node label line column parts) then some false else none
    | .tuple | .row => hashableAll? parts
    | .absent => some true
    | .list => (hashableAll? parts).map fun _ => false
    | .set | .dict => (hashableAll? parts).bind fun all => if all then some false else none
    | .pair =>
      match parts with
      | [key,_,value] =>
        match hashable? key with
        | some true => (hashable? value).map fun _ => true
        | _ => none
      | _ => none
    | _ => none

/-- Whether the values in several trees are all hashable; punctuation is passed over. -/
def hashableAll? : List Tree → Option Bool
  | [] => some true
  | leaf _ :: rest => hashableAll? rest
  | t :: rest =>
    match hashable? t, hashableAll? rest with
    | some one, some others => some (one && others)
    | _, _ => none

end

end Tree

inductive ValueFault where
  | surrogate (e : Utf8.EncodeError)
  | null
  | refused (why : Refusal)
  /-- It is an expression, but none that writes a value. -/
  | malformed
  deriving DecidableEq, Repr

/-- The wording of a fault, without the place of a malformed expression in memory. -/
def ValueFault.message : ValueFault → Text
  | surrogate e => e.message
  | null => "source code string cannot contain null bytes"
  | refused (.notPython _ wording) => wording
  | refused .noMemory => ""
  | malformed => "malformed node or string"

/-- Why a text writes no value; `none` when it writes one.  No line end is added where it ends. -/
def valueFault? (t : Text) : Option ValueFault :=
  let t := t.dropWhile fun c => c == 0x20 || c == 0x09
  match Utf8.firstSurrogates? t with
  | some e => some (.surrogate e)
  | none =>
    if t.contains 0 then some .null
    else
      match parseTokens moduleGrammar (parseFuel t) (t.length + 1) false .evaluation (lexLines 1 (Text.withLineFeeds t)) with
      | .error why => some (.refused why)
      | .ok tree => if tree.hashable?.isSome then none else some .malformed

end ApiDocs.Source
