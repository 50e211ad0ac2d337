import ApiDocs.Number.Binary64
/-!
Values that documents and samples hold.

A value is what a JSON text can say, with the members of an object in the order in which they were
first written, and five kinds of value that a program may put into a sample although no JSON text
can say them.  `Value.isJson` holds of the values without the latter.
-/

namespace ApiDocs

/-- Values of a running program that no JSON text says. -/
inductive Foreign where
  | bytes (octets : Bytes)
  | emptyTuple
  | emptySet
  | object
  | imaginary
  deriving DecidableEq, Repr

def Foreign.name : Foreign → Text
  | .bytes _ => "bytes"
  | .emptyTuple => "tuple"
  | .emptySet => "set"
  | .object => "object"
  | .imaginary => "complex"

/-- A value with the members of its objects in order. -/
inductive Value where
  | null
  | bool (b : Bool)
  | int (n : Int)
  | float (x : Binary64)
  | str (t : Text)
  | arr (items : List Value)
  | obj (members : List (Text × Value))
  | foreign (kind : Foreign)
  deriving Repr

namespace Value

instance : Inhabited Value := ⟨.null⟩

def ofString (s : String) : Value := .str s

mutual

/-- A JSON text can say the value: nothing foreign is in it. -/
def isJson : Value → Bool
  | .arr items => areJson items
  | .obj members => membersAreJson members
  | .foreign _ => false
  | _ => true

def areJson : List Value → Bool
  | [] => true
  | v :: rest => isJson v && areJson rest

def membersAreJson : List (Text × Value) → Bool
  | [] => true
  | (_,v) :: rest => isJson v && membersAreJson rest

end

def lookup? (name : Text) (members : List (Text × Value)) : Option Value :=
  (members.find? (·.1 = name)).map (·.2)

/-- A member is bound to a new value where it stands, or added at the end. -/
def insert (name : Text) (v : Value) : List (Text × Value) → List (Text × Value)
  | [] => [(name,v)]
  | (key,old) :: rest =>
    if key = name then (key,v) :: rest else (key,old) :: insert name v rest

def member? (name : Text) : Value → Option Value
  | .obj members => lookup? name members
  | _ => none

def kindName : Value → Text
  | .null => "NoneType"
  | .bool _ => "bool"
  | .int _ => "int"
  | .float _ => "float"
  | .str _ => "str"
  | .arr _ => "list"
  | .obj _ => "dict"
  | .foreign kind => kind.name

/-- Everything but null, false, zero and what is empty. -/
def isTruthy : Value → Bool
  | .null => false
  | .bool b => b
  | .int n => n ≠ 0
  | .float x => x.isNonzero
  | .str t => !t.isEmpty
  | .arr items => !items.isEmpty
  | .obj members => !members.isEmpty
  | .foreign (.bytes octets) => !octets.isEmpty
  | .foreign .emptyTuple => false
  | .foreign .emptySet => false
  | .foreign .object => true
  | .foreign .imaginary => true

mutual

def beq : Value → Value → Bool
  | .null, .null => true
  | .bool a, .bool b => a == b
  | .int a, .int b => a == b
  | .float a, .float b => a == b
  | .str a, .str b => a == b
  | .arr a, .arr b => beqItems a b
  | .obj a, .obj b => beqMembers a b
  | .foreign a, .foreign b => a == b
  | _, _ => false

def beqItems : List Value → List Value → Bool
  | [], [] => true
  | a :: as, b :: bs => beq a b && beqItems as bs
  | _, _ => false

def beqMembers : List (Text × Value) → List (Text × Value) → Bool
  | [], [] => true
  | (j,a) :: as, (k,b) :: bs => j == k && beq a b && beqMembers as bs
  | _, _ => false

end

end Value

end ApiDocs
