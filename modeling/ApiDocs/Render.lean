import ApiDocs.Document
import ApiDocs.Format
import ApiDocs.Html
import ApiDocs.Yaml.Writer
/-!
Rendering the documentation in one of its formats.
-/

namespace ApiDocs

inductive RenderFault where
  | document (fault : DocumentFault)
  | integerTooLong
  | encoding (fault : Utf8.EncodeError)
  deriving DecidableEq, Repr

def RenderFault.message : RenderFault → Text
  | .document fault => fault.message
  | .integerTooLong => "Exceeds the limit (4300 digits) for integer string conversion"
  | .encoding fault => fault.message

structure RenderError where
  format : Format
  fault : RenderFault
  deriving DecidableEq, Repr

def RenderError.message (e : RenderError) : Text :=
  ("marshal " : Text) ++ e.format.name ++ (": " : Text) ++ e.fault.message

def maxWrittenDigits : Nat := 4300

def isWritableInt (n : Int) : Bool := n.natAbs < Nat.pow 10 maxWrittenDigits

namespace Value

mutual

/-- Every integer of the value can be written. -/
def intsWritable : Value → Bool
  | .int n => isWritableInt n
  | .arr items => intsWritableItems items
  | .obj members => intsWritableMembers members
  | _ => true

def intsWritableItems : List Value → Bool
  | [] => true
  | v :: rest => intsWritable v && intsWritableItems rest

def intsWritableMembers : List (Text × Value) → Bool
  | [] => true
  | (_,v) :: rest => intsWritable v && intsWritableMembers rest

end

end Value

namespace Snapshot

def documented (s : Snapshot) : Except DocumentFault Snapshot :=
  eachDocumented (fun (key,e) => (Endpoint.documented e).map fun e => (key,e)) s

/-- The document of a snapshot: the documents of its endpoints by key. -/
def document (s : Snapshot) : Value := .obj (s.map fun (key,e) => (key,e.document))

def text (s : Snapshot) : Format → Text
  | .json => Json.pretty s.document
  | .yaml => Yaml.text s.document
  | .html => Html.page s

def renderText (s : Snapshot) (format : Format) : Except RenderFault Text :=
  match s.documented with
  | .error fault => .error (.document fault)
  | .ok s => if s.document.intsWritable then .ok (s.text format) else .error .integerTooLong

/-- The rendered documentation in UTF-8. -/
def render (s : Snapshot) (format : Format) : Except RenderError Bytes :=
  match s.renderText format with
  | .error fault => .error ⟨format,fault⟩
  | .ok t =>
    match Utf8.encode t with
    | .error fault => .error ⟨format,.encoding fault⟩
    | .ok b => .ok b

end Snapshot

end ApiDocs
