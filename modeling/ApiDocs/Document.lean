import ApiDocs.Endpoint
import ApiDocs.Text.Utf8
/-!
The document of an endpoint: its fields as one JSON value, ready to be written in any format.

Samples may hold values that no document can hold; the empty kinds of them become what is nearest,
others are refused.
-/

namespace ApiDocs

/-- Why a sample cannot stand in a document. -/
inductive DocumentFault where
  | unknownKind (kind : Foreign)
  | name (fault : Utf8.EncodeError)
  deriving DecidableEq, Repr

def DocumentFault.message : DocumentFault → Text
  | .unknownKind kind =>
    ("Unable to serialize unknown type: <class '" : Text) ++ kind.name ++ ("'>" : Text)
  | .name fault => fault.message

namespace Value

mutual

/-- A sample as a document holds it.  Infinities and NaN become null, octets the text that they
encode, an empty tuple or set an empty array, the imaginary unit its text. -/
def documented : Value → Except DocumentFault Value
  | .float x =>
    match x with
    | .finite .. => .ok (.float x)
    | _ => .ok .null
  | .arr items => (documentedItems items).map .arr
  | .obj members => (documentedMembers members).map .obj
  | .foreign (.bytes b) =>
    match Utf8.decode b with
    | .ok t => .ok (.str t)
    | .error _ => .error (.unknownKind (.bytes b))
  | .foreign .emptyTuple => .ok (.arr [])
  | .foreign .emptySet => .ok (.arr [])
  | .foreign .imaginary => .ok (.str "1j")
  | .foreign .object => .error (.unknownKind .object)
  | v => .ok v

def documentedItems : List Value → Except DocumentFault (List Value)
  | [] => .ok []
  | v :: rest =>
    match documented v with
    | .error fault => .error fault
    | .ok v => (documentedItems rest).map (v :: ·)

def documentedMembers : List (Text × Value) → Except DocumentFault (List (Text × Value))
  | [] => .ok []
  | (name,v) :: rest =>
    match Utf8.firstSurrogates? name with
    | some fault => .error (.name fault)
    | none =>
      match documented v with
      | .error fault => .error fault
      | .ok v => (documentedMembers rest).map ((name,v) :: ·)

end

end Value

def eachDocumented {α β : Type} (f : α → Except DocumentFault β) :
    List α → Except DocumentFault (List β)
  | [] => .ok []
  | a :: rest =>
    match f a with
    | .error fault => .error fault
    | .ok b => (eachDocumented f rest).map (b :: ·)

def Response.documented (r : Response) : Except DocumentFault Response :=
  r.body.documented.map fun body => { r with body := body }

def Endpoint.documented (e : Endpoint) : Except DocumentFault Endpoint :=
  (eachDocumented Response.documented e.responses).map fun responses =>
    { e with responses := responses }

def Parameter.document (p : Parameter) : Value :=
  .obj [("name",.str p.name),("type",.str p.type),("required",.bool p.required)]

def Response.document (r : Response) : Value :=
  .obj [("body",r.body),("statusCode",.int r.status)]

def Endpoint.document (e : Endpoint) : Value :=
  .obj [("description",.str e.description),("handler",.str e.handler),
    ("method",.str e.method),("path",.str e.path),("response",.str e.responseType),
    ("parameters",.arr (e.parameters.map Parameter.document)),
    ("responses",.arr (e.responses.map Response.document))]

end ApiDocs
