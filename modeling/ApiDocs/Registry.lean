import ApiDocs.Endpoint
/-!
The registry: endpoints by key, in the order in which their keys were first registered.

Registering a key again replaces what is documented about it and keeps the samples that were
collected.
-/

namespace ApiDocs

/-- The documented endpoints and the samples that were collected for them. -/
structure Registry where
  entries : Snapshot := []
  deriving Repr

namespace Registry

def empty : Registry := {}

def get? (r : Registry) (key : Text) : Option Endpoint :=
  (r.entries.find? (·.1 = key)).map (·.2)

def contains (r : Registry) (key : Text) : Bool := r.entries.any (·.1 = key)

/-- The keys in the order in which they were first registered. -/
def keys (r : Registry) : List Text := r.entries.map (·.1)

def size (r : Registry) : Nat := r.entries.length

def snapshot (r : Registry) : Snapshot := r.entries

/-- The endpoint takes the place of one with the same key, behind whose samples its own come; without
one it is added at the end. -/
def upsertIn (e : Endpoint) : Snapshot → Snapshot
  | [] => [(e.key,e)]
  | (key,old) :: rest =>
    if key = e.key then (key,{ e with responses := old.responses ++ e.responses }) :: rest
    else (key,old) :: upsertIn e rest

def upsert (r : Registry) (e : Endpoint) : Registry := ⟨upsertIn e r.entries⟩

def load (r : Registry) (es : List Endpoint) : Registry := es.foldl upsert r

def ofList (es : List Endpoint) : Registry := empty.load es

/-- A sample is added to the endpoint of a key, behind those that it has. -/
def appendIn (key : Text) (sample : Response) : Snapshot → Snapshot
  | [] => []
  | (k,e) :: rest =>
    if k = key then (k,{ e with responses := e.responses ++ [sample] }) :: rest
    else (k,e) :: appendIn key sample rest

/-- A sample is added under a key; `none` when the key is not registered. -/
def append? (r : Registry) (key : Text) (sample : Response) : Option Registry :=
  if r.contains key then some ⟨appendIn key sample r.entries⟩ else none

def isDocumented (r : Registry) (method path : Text) : Bool := r.contains (endpointKey method path)

end Registry

end ApiDocs
