import ApiDocs.Event
import ApiDocs.Redaction
import ApiDocs.Registry
import ApiDocs.Validation
/-!
Recording samples.

A response body is redacted before it is stored, so a sample tells the fields of a document and never
what is in them.  A body that is empty or not JSON is passed over, and so is one of an endpoint that is
not registered.
-/

namespace ApiDocs

inductive RecordError where
  | body (e : BodyError)
  | status (problems : List Validation.Problem)
  deriving Repr

structure Recorded where
  registry : Registry
  events : List Event
  result : Except RecordError Bool

/-- The shape of a body is added to the samples of an endpoint; the answer tells whether it was. -/
def Registry.record (r : Registry) (method path : Text) (status body : Value) : Recorded :=
  match redactBody body with
  | .error e => ⟨r,[],.error (.body e)⟩
  | .ok none => ⟨r,[.skippedBody method path],.ok false⟩
  | .ok (some shape) =>
    match Response.observed shape status with
    | .error problems => ⟨r,[],.error (.status problems)⟩
    | .ok sample =>
      let key := endpointKey method path
      match r.append? key sample with
      | none => ⟨r,[.skippedKey key],.ok false⟩
      | some r => ⟨r,[.captured key status.plain shape.shown],.ok true⟩

namespace Capture

/-- What is copied of a response while it is sent: its status, and its octets as long as everything
that is sent as octets is such. -/
structure Draft where
  status : Int := 200
  body : Option Bytes := some []
  deriving Repr

def Draft.add (d : Draft) : Value → Draft
  | .foreign (.bytes b) => { d with body := d.body.map (· ++ b) }
  | _ => { d with body := none }

/-- A response that was sent completely is recorded.  What goes wrong changes nothing and is reported
as an event, which `failed` makes of the name of the cause. -/
def Draft.finish (d : Draft) (failed : Text → Event) (method path : Text) (r : Registry) :
    Registry × List Event :=
  match d.body with
  | none => (r,[failed "TypeError"])
  | some body =>
    let recorded := r.record method path (.int d.status) (.foreign (.bytes body))
    match recorded.result with
    | .ok _ => (recorded.registry,recorded.events)
    | .error (.body .tooDeep) => (r,[failed "RecursionError"])
    | .error (.body (.notReadable _)) => (r,[failed "TypeError"])
    | .error (.status _) => (r,[failed "ValidationError"])

end Capture

end ApiDocs
