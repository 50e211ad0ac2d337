import ApiDocs.Source.Token
import ApiDocs.Text.Composition
/-!
Trees of source text.

A tree keeps what is looked at later: which functions there are, what their first statements say, and
what an expression would mean as a target of an assignment.
-/

namespace ApiDocs.Source

/-- What a node of a tree stands for. -/
inductive Label where
  /-- Parts in a row, which have no meaning as a whole. -/
  | row
  /-- A part that is not there. -/
  | absent
  | name (id : Text)
  | identifier
  | number (spelled : Text)
  | text (value : Text)
  | octets
  /-- A formatted string, which takes so many levels. -/
  | formatted (levels : Nat)
  | constant (spelled : Text)
  | attribute
  | subscript
  | call
  | list
  | tuple
  | set
  | dict
  | pair
  /-- What a dictionary takes its pairs from. -/
  | unpacked
  | starred
  | comparison
  /-- The second half of a comparison by `in`. -/
  | membership
  | arguments
  /-- An argument that gives others by name. -/
  | mapping
  | signed
  | sum
  | operation
  | conditional
  | lambda
  | binding
  | awaiting
  | yielding
  | generator
  | comprehension (kind : Text)
  | alternatives
  | expression
  | function
  | other
  deriving DecidableEq, Repr

def Label.called : Label → Text
  | .name _ => "name"
  | .number _ | .text _ | .octets => "literal"
  | .formatted _ => "f-string expression"
  | .constant spelled => if spelled = "..." then "ellipsis" else spelled
  | .attribute => "attribute"
  | .subscript => "subscript"
  | .call => "function call"
  | .list => "list"
  | .tuple => "tuple"
  | .set => "set display"
  | .dict => "dict literal"
  | .starred => "starred"
  | .comparison => "comparison"
  | .conditional => "conditional expression"
  | .lambda => "lambda"
  | .binding => "named expression"
  | .awaiting => "await expression"
  | .yielding => "yield expression"
  | .generator => "generator expression"
  | .comprehension kind => kind ++ (" comprehension" : Text)
  | _ => "expression"

/-- A tree of source text. -/
inductive Tree where
  | leaf (t : Token)
  | node (label : Label) (line column : Nat) (parts : List Tree)
  deriving Repr

namespace Tree

/-- A part that is not there. -/
def absent : Tree := .node .absent 0 0 []

instance : Inhabited Tree := ⟨absent⟩

def line : Tree → Nat
  | leaf t => t.line
  | node _ line _ _ => line

/-- The line and the column where a tree begins. -/
def place : Tree → Nat × Nat
  | leaf t => (t.line,t.column)
  | node _ line column _ => (line,column)

def parts : Tree → List Tree
  | leaf _ => []
  | node _ _ _ parts => parts

def label? : Tree → Option Label
  | leaf _ => none
  | node label _ _ _ => some label

/-- A name or a keyword as it is spelled. -/
def spelled : Tree → Text
  | leaf t => t.text
  | node (.name id) _ _ _ => Text.canonicalName id
  | _ => []

def called (t : Tree) : Text := (t.label?.map Label.called).getD []

def part (n : Nat) (t : Tree) : Tree := t.parts[n]?.getD absent

mutual

/-- The nodes in a row, without the punctuation between them. -/
def members : Tree → List Tree
  | leaf _ => []
  | node label line column parts =>
    match label with
    | .row => membersOf parts
    | .absent => []
    | label => [node label line column parts]

def membersOf : List Tree → List Tree
  | [] => []
  | t :: rest => members t ++ membersOf rest

end

end Tree

/-! ## Levels -/

mutual

/-- The number of levels of a tree. -/
def Tree.depth : Tree → Nat
  | .leaf _ => 0
  | .node label _ _ parts =>
    match label with
    | .identifier => 0
    | .formatted levels => levels
    | .row | .absent | .membership | .arguments | .pair | .unpacked => depthOf parts
    | .alternatives => depthOf parts + (if parts.length ≤ 1 then 0 else 1)
    | _ => depthOf parts + 1

def depthOf : List Tree → Nat
  | [] => 0
  | t :: rest => max t.depth (depthOf rest)

end

/-! ## Targets -/

/-- What an expression is used as. -/
inductive Usage where
  | assigned
  | iterated
  | deleted
  deriving DecidableEq, Repr

mutual

/-- The first part of an expression that cannot be used as a target. -/
def Tree.badTarget (usage : Usage) : Tree → Option Tree
  | .leaf t => some (.leaf t)
  | .node label line column parts =>
    match label with
    | .list | .tuple | .row => badTargetOf usage parts
    | .absent | .name _ | .subscript | .attribute => none
    | .starred =>
      if usage = .deleted then some (.node label line column parts) else badTargetOf usage parts
    | .comparison =>
      if usage = .iterated then
        match parts with
        | left :: rest =>
          if (Tree.membersOf rest).head?.bind Tree.label? = some .membership then
            left.badTarget usage
          else none
        | [] => none
      else some (.node label line column parts)
    | label => some (.node label line column parts)

/-- The first part of several that cannot be used as a target; punctuation is passed over. -/
def badTargetOf (usage : Usage) : List Tree → Option Tree
  | [] => none
  | .leaf _ :: rest => badTargetOf usage rest
  | t :: rest =>
    match t.badTarget usage with
    | some bad => some bad
    | none => badTargetOf usage rest

end

end ApiDocs.Source
