import ApiDocs.Source.Grammar
import ApiDocs.Source.Parser
import ApiDocs.Text.Composition
/-!
The outline of a module: its functions in the order of the text, each with its docstring.

A function that is defined inside another one, or inside a class or a branch of a statement, counts
like any other.  The functions are collected breadth first and then sorted by the places where they
begin.
-/

namespace ApiDocs.Source

/-- A function: its name, and the text that its body begins with, if it begins with one. -/
structure Definition where
  name : Text
  docstring : Option Text
  deriving DecidableEq, Repr

namespace Tree

/-- The name of a function in its one spelling. -/
def definedName (t : Tree) : Text :=
  Text.canonicalName <| (t.parts.findSome? fun part => match part.label? with
    | some (.name id) => some id
    | _ => none).getD []

def statedText? (t : Tree) : Option Text :=
  match t with
  | .node .expression _ _ [.node (.text value) _ _ _] => some value
  | _ => none

def docstring? (t : Tree) : Option Text :=
  (t.parts.getLast?.bind fun block => block.members.head?).bind statedText?

mutual

def count : Tree → Nat
  | leaf _ => 1
  | node _ _ _ parts => countOf parts + 1

def countOf : List Tree → Nat
  | [] => 0
  | t :: rest => count t + countOf rest

end

/-- The trees of a queue and those inside them, breadth first: the first tree is taken, and its parts
join the queue at the end.  The fuel is the number of all these trees. -/
def walk : (fuel : Nat) → List Tree → List Tree
  | fuel + 1, t :: rest => t :: walk fuel (rest ++ t.parts)
  | _, _ => []

def isFunction (t : Tree) : Bool := t.label? = some .function

def notBehind (a b : Nat × Nat) : Bool := a.1 < b.1 || (a.1 == b.1 && a.2 ≤ b.2)

/-- A tree is put in front of the first one that does not begin before it. -/
def insertByPlace (t : Tree) : List Tree → List Tree
  | [] => [t]
  | u :: rest => if notBehind t.place u.place then t :: u :: rest else u :: insertByPlace t rest

/-- Trees by the places where they begin; those that begin at one place stay in their order. -/
def sortByPlace (ts : List Tree) : List Tree := ts.foldr insertByPlace []

/-- The functions in a tree in the order of the text. -/
def functions (t : Tree) : List Definition :=
  (sortByPlace ((walk t.count [t]).filter isFunction)).map fun f => ⟨f.definedName,f.docstring?⟩

end Tree

/-- The greatest number of levels that a module may have, itself included: each takes a third of a frame. -/
def maxLevels : Nat := 3 * Interpreter.freeFrames

/-- Why a text has no outline. -/
inductive OutlineError where
  | refused (why : Refusal)
  | tooDeep
  deriving DecidableEq, Repr

/-- The functions of a module. -/
def definitions (t : Text) : Except OutlineError (List Definition) :=
  match parse moduleGrammar .file t with
  | .error why => .error (.refused why)
  | .ok tree => if maxLevels < tree.depth + 1 then .error .tooDeep else .ok tree.functions

end ApiDocs.Source
