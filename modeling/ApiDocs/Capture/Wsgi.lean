import ApiDocs.Capture.Sample
import ApiDocs.Capture.Status
/-!
Capturing requests over WSGI.

An application starts its response, may write data, and returns an iterable of chunks, which the server
pulls one by one.  When the request is documented the application is called at the first pull; the
status, the written data and the chunks are copied on the side and recorded once the server has pulled
past the last chunk.  A server that stops earlier closes the iterable, and nothing is recorded.
-/

namespace ApiDocs.Wsgi

open Capture

inductive Act where
  | start (status headers : Value) (cause : Option Value)
  | write (data : Value)
  | fail (message : Text)
  deriving Repr

inductive Item where
  | act (a : Act)
  | chunk (data : Value)
  deriving Repr

/-- An application: what it does when it is called, and the iterable that it returns. -/
structure App where
  pre : List Act
  items : List Item
  hasClose : Bool
  deriving Repr

/-- What can be seen of a request from outside. -/
inductive Sight where
  | returned
  | called
  | start (status headers : Value) (further : List Value)
  | write (data : Value)
  | chunk (data : Value)
  | closed
  deriving Repr

/-- A request in flight: the copy of its response, and what was seen of it, reversed. -/
structure Flight where
  draft : Draft := {}
  isStarted : Bool := false
  seen : List Sight := []

def Flight.see (f : Flight) (s : Sight) : Flight := { f with seen := s :: f.seen }

/-- The server is given what an application does; `isCopied` tells that the request is documented.  A
status that cannot be read stops the application before the server is told. -/
def Flight.act (isCopied : Bool) (f : Flight) : Act → Except Fault Flight
  | .fail message => .error (.application message)
  | .start status headers cause =>
    if isCopied then
      match statusOfLine status with
      | .error fault => .error fault
      | .ok code =>
        .ok ({ f with draft := { f.draft with status := code }, isStarted := true }.see
          (.start status headers [cause.getD .null]))
    else .ok ({ f with isStarted := true }.see (.start status headers cause.toList))
  | .write data =>
    if f.isStarted then .ok ({ f with draft := f.draft.add data }.see (.write data))
    else .error .notStarted

def Flight.acts (isCopied : Bool) (f : Flight) : List Act → Flight × Option Fault
  | [] => (f,none)
  | a :: rest =>
    match f.act isCopied a with
    | .error fault => (f,some fault)
    | .ok f => f.acts isCopied rest

/-- How an iteration ends: behind the last chunk, at a chunk behind which the server pulls no more, or
by a fault. -/
inductive Finish where
  | complete
  | abandoned
  | failed (fault : Fault)
  deriving Repr

/-- The server pulls chunks: all of them, or at most so many, which are not zero. -/
def Flight.pull (isCopied : Bool) (left : Option Nat) (f : Flight) : List Item → Flight × Finish
  | [] => (f,.complete)
  | .act a :: rest =>
    match f.act isCopied a with
    | .error fault => (f,.failed fault)
    | .ok f => f.pull isCopied left rest
  | .chunk data :: rest =>
    let f := { f with draft := f.draft.add data }.see (.chunk data)
    if left = some 1 then (f,.abandoned) else f.pull isCopied (left.map (· - 1)) rest

def Flight.close (f : Flight) (app : App) : Flight := if app.hasClose then f.see .closed else f

structure Served where
  registry : Registry
  events : List Event := []
  seen : List Sight
  fault : Option Fault := none

/-- A documented request. -/
def serveDocumented (r : Registry) (method path : Text) (app : App) (pulls : Option Nat) : Served :=
  let f : Flight := ({} : Flight).see .returned
  if pulls = some 0 then ⟨r,[],f.seen.reverse,none⟩
  else match (f.see .called).acts true app.pre with
    | (f,some fault) => ⟨r,[],f.seen.reverse,some fault⟩
    | (f,none) =>
      let (f,finish) := f.pull true pulls app.items
      let seen := (f.close app).seen.reverse
      match finish with
      | .failed fault => ⟨r,[],seen,some fault⟩
      | .abandoned => ⟨r,[],seen,none⟩
      | .complete =>
        let (r,events) := f.draft.finish (.wsgiFailed method path) method path r
        ⟨r,events,seen,none⟩

def serveOther (r : Registry) (app : App) (pulls : Option Nat) : Served :=
  match (({} : Flight).see .called).acts false app.pre with
  | (f,some fault) => ⟨r,[],f.seen.reverse,some fault⟩
  | (f,none) =>
    let f := f.see .returned
    if pulls = some 0 then ⟨r,[],f.seen.reverse,none⟩
    else match f.pull false pulls app.items with
      | (f,.failed fault) => ⟨r,[],f.seen.reverse,some fault⟩
      | (f,_) => ⟨r,[],f.seen.reverse,none⟩

/-- A request is served by an application to a server that pulls at most so many chunks. -/
def serve (r : Registry) (method path : Text) (app : App) (pulls : Option Nat) : Served :=
  if r.isDocumented method path then serveDocumented r method path app pulls
  else serveOther r app pulls

structure Environ where
  requestMethod : Option Text := none
  scriptName : Option Text := none
  pathInfo : Option Text := none
  deriving Repr

def Environ.method (environ : Environ) : Text := environ.requestMethod.getD "GET"

/-- The path that the client sent, the mount point included. -/
def requestPath (mount path : Text) : Text := mount ++ path

def Environ.path (environ : Environ) : Text := requestPath (environ.scriptName.getD []) (environ.pathInfo.getD [])

def serveIn (r : Registry) (environ : Environ) (app : App) (pulls : Option Nat) : Served :=
  serve r environ.method environ.path app pulls

end ApiDocs.Wsgi
