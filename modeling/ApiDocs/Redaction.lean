import ApiDocs.Json.Reader
/-!
Redaction: which fields a document has, without the data in them.

Every leaf becomes a placeholder of its own kind, and the items of an array are dropped with it, so two documents of one
shape have one redaction. Objects are redacted one inside the other, each of them by two calls, so there is a bound to their
nesting. A body is read as JSON first; a body with nothing to read in it has no shape.
-/
namespace ApiDocs

inductive RedactError where
  | tooDeep
  | foreign (kind : Foreign)
  deriving DecidableEq, Repr

mutual

/-- The placeholder for a value, when so many objects may stand one inside the other. -/
def redactWithin (room : Nat) : Value → Except RedactError Value
  | .null => .ok .null
  | .bool _ => .ok (.bool false)
  | .int _ => .ok (.int 0)
  | .float _ => .ok (.int 0)
  | .str _ => .ok (.str [])
  | .arr _ => .ok (.arr [])
  | .obj members => if room = 0 then .error .tooDeep else (redactMembers (room - 1) members).map .obj
  | .foreign kind => .error (.foreign kind)

def redactMembers (room : Nat) : List (Text × Value) → Except RedactError (List (Text × Value))
  | [] => .ok []
  | (name,v) :: rest =>
    match redactWithin room v with
    | .error e => .error e
    | .ok v => (redactMembers room rest).map ((name,v) :: ·)

end

/-- The greatest number of objects one inside the other: each takes a frame for itself and one for its members, and the
    innermost one more for what is in it. -/
def maxObjects : Nat := (Interpreter.freeFrames - 1) / 2

def redact (v : Value) : Except RedactError Value := redactWithin maxObjects v

/-- Why a body can neither be redacted nor be passed over. -/
inductive BodyError where
  | tooDeep
  | notReadable (kind : Text)
  deriving DecidableEq, Repr

def RedactError.ofBody : RedactError → BodyError
  | .tooDeep => .tooDeep
  | .foreign kind => .notReadable kind.name

/-- The shape of a JSON text; a text that is not JSON has none. -/
def redactText (t : Text) : Except BodyError (Option Value) :=
  match Json.read t with
  | .ok v => ((redact v).map some).mapError RedactError.ofBody
  | .error .tooDeep => .error .tooDeep
  | .error _ => .ok none

/-- The shape of a JSON text in one of the Unicode encodings; octets that are not one have none. -/
def redactBytes (b : Bytes) : Except BodyError (Option Value) :=
  if b.isEmpty then .ok none
  else match Encoding.decodeDetected? b with
    | some t => redactText t
    | none => .ok none

/-- The shape of a body given as octets or as a text. Empty values of any kind have none. -/
def redactBody : Value → Except BodyError (Option Value)
  | .foreign (.bytes b) => redactBytes b
  | .str t => if t.isEmpty then .ok none else redactText t
  | .null => .ok none
  | v => if v.isTruthy then .error (.notReadable v.kindName) else .ok none

end ApiDocs
