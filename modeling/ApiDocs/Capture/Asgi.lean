import ApiDocs.Capture.Sample
import ApiDocs.Capture.Status
/-!
Capturing requests over ASGI.

An application sends messages one after another, and each of them is sent on as it is.  When the
request is documented, the status and the body chunks of its response are copied on the side and
recorded once the application has returned; what is not documented is not looked at.
-/

namespace ApiDocs.Asgi

open Capture

/-- What an application does: it sends a message or fails, with a message of its own. -/
inductive Act where
  | send (message : Value)
  | fail (message : Text)
  deriving Repr

/-- What a call with an application leaves behind: whether the application was called, the messages
that were sent on, and how the call ended. -/
structure Served where
  registry : Registry
  events : List Event := []
  isCalled : Bool
  sent : List Value := []
  fault : Option Fault := none

def entry (name : Text) (v : Value) : Except Fault Value :=
  match v with
  | .obj members =>
    match Value.lookup? name members with
    | some v => .ok v
    | none => .error (.missing name)
  | v => .error (.notRecord v)

def octetOfItem : Value → Except Fault UInt8
  | .int n => if 0 ≤ n ∧ n < 256 then .ok n.toNat.toUInt8 else .error .octetRange
  | .bool b => .ok (if b then 1 else 0)
  | v => .error (.notOctet v.kindName)

def maxCount : Nat := 0x7FFFFFFFFFFFFFFF

/-- The octets that are kept with those of a value: its kind, its length and the like. -/
def keptOctets : Nat := 33

/-- The octets that the body of a message stands for: a count stands for so many zeros, and a list for
the octets in it. -/
def octetsOfBody : Value → Except Fault Bytes
  | .foreign (.bytes b) => .ok b
  | .int n =>
    if n < 0 then .error (if n < -0x8000000000000000 then .countTooLarge else .negativeCount)
    else if maxCount < n.toNat then .error .countTooLarge
    else if maxCount - keptOctets < n.toNat then .error .octetsTooLarge
    else if Interpreter.freeOctets < n.toNat then .error .noMemory
    else .ok (List.replicate n.toNat 0)
  | .bool b => .ok (if b then [0] else [])
  | .arr items => items.mapM octetOfItem
  | .obj [] => .ok []
  | .obj _ => .error (.notOctet "str")
  | .str _ => .error .textBody
  | .foreign .emptyTuple | .foreign .emptySet => .ok []
  | v => .error (.notOctets v.kindName)

def copy (d : Draft) (message : Value) : Except Fault Draft := do
  let kind ← entry "type" message
  if kind.beq (.str "http.response.start") then
    let status ← entry "status" message
    let status ← statusOfValue status
    return { d with status }
  else if kind.beq (.str "http.response.body") then
    let body := (message.member? "body").getD (.foreign (.bytes []))
    let body ← octetsOfBody body
    return d.add (.foreign (.bytes body))
  else return d

/-- The messages of an application are sent on, and copied by `copy`; `sent` are those before,
reversed. -/
def relay (copy : Draft → Value → Except Fault Draft) (d : Draft) (sent : List Value) :
    List Act → List Value × Except Fault Draft
  | [] => (sent.reverse,.ok d)
  | .fail message :: _ => (sent.reverse,.error (.application message))
  | .send message :: rest =>
    match copy d message with
    | .error fault => (sent.reverse,.error fault)
    | .ok d => relay copy d (message :: sent) rest

/-- The method and the path of a request that is documented; `none` when it is passed through. -/
def route (r : Registry) (scope : Value) : Except Fault (Option (Text × Text)) := do
  let kind ← entry "type" scope
  if kind.beq (.str "http") then
    let method ← entry "method" scope
    let path ← entry "path" scope
    return if r.isDocumented method.plain path.plain then some (method.plain,path.plain) else none
  else return none

/-- A call is served by an application that acts as given. -/
def serve (r : Registry) (scope : Value) (acts : List Act) : Served :=
  match route r scope with
  | .error fault => { registry := r, isCalled := false, fault := some fault }
  | .ok none =>
    match relay (fun d _ => .ok d) {} [] acts with
    | (sent,.error fault) => { registry := r, isCalled := true, sent, fault := some fault }
    | (sent,.ok _) => { registry := r, isCalled := true, sent }
  | .ok (some (method,path)) =>
    match relay copy {} [] acts with
    | (sent,.error fault) => { registry := r, isCalled := true, sent, fault := some fault }
    | (sent,.ok d) =>
      let (registry,events) := d.finish (.asgiFailed method path) method path r
      { registry, events, isCalled := true, sent }

end ApiDocs.Asgi
