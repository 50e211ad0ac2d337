import ApiDocs.Value
/-!
Endpoints: what is documented about one method and path.
-/

namespace ApiDocs

/-- A documented parameter of an endpoint. -/
structure Parameter where
  name : Text
  type : Text
  required : Bool := false
  deriving Repr

/-- One observed sample of an endpoint's output. -/
structure Response where
  body : Value := .null
  status : Int := 200
  deriving Repr

/-- What is documented about an endpoint and what was observed of it. -/
structure Endpoint where
  description : Text := []
  handler : Text := []
  method : Text := []
  path : Text := []
  responseType : Text := []
  parameters : List Parameter := []
  responses : List Response := []
  deriving Repr

abbrev Snapshot := List (Text × Endpoint)

/-- The key of a method and a path: both as they are, with a blank between them. -/
def endpointKey (method path : Text) : Text := method ++ 0x20 :: path

def Endpoint.key (e : Endpoint) : Text := endpointKey e.method e.path

end ApiDocs
