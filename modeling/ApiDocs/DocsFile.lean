import ApiDocs.Config
import ApiDocs.Event
import ApiDocs.Extraction
import ApiDocs.Files.Tree
import ApiDocs.Json.Reader
import ApiDocs.Render
/-!
The file with the documentation: writing it, and reading it back.

A file is written only after everything was rendered, so documentation that cannot be rendered leaves
what is there as it is.
-/

namespace ApiDocs

inductive SaveError where
  | render (e : RenderError)
  | write (path : Text) (e : FileError)
  | refused (e : FileError)
  deriving Repr

def SaveError.message : SaveError → Text
  | .render e => e.message
  | .write path e => ("write " : Text) ++ path ++ (": " : Text) ++ e.message
  | .refused e => e.message

def SaveError.ofFile (path : Text) (e : FileError) : SaveError :=
  match e with
  | .fault .. => .write path e
  | _ => .refused e

/-- The documentation is written to the path that the settings tell, seen from a directory if one is
given; the answer is the path. -/
def Files.save (fs : Files) (s : Snapshot) (config : Config) (directory : Option Path) :
    Files × Logged SaveError Path :=
  match s.render config.output with
  | .error e => (fs,⟨[],.error (.render e)⟩)
  | .ok content =>
    let path := config.output.outputPath config.filename directory
    match fs.ensureDirectory path.parent with
    | (fs,.error e) => (fs,⟨[],.error (.ofFile path.toText e)⟩)
    | (fs,.ok _) =>
      match fs.write path content with
      | .error e => (fs,⟨[],.error (.ofFile path.toText e)⟩)
      | .ok fs => (fs,⟨[.wroteDocument s.length path.toText],.ok path⟩)

inductive LoadError where
  | unreadable (path reason : Text)
  | tooDeep
  | notObject (kind : Text)
  | invalid (problems : List Validation.Problem)
  deriving Repr

def readFailure (path reason : Text) : Text :=
  ("read " : Text) ++ path ++ (": " : Text) ++ reason

def notObjectMessage (kind : Text) : Text :=
  (0x27 :: kind) ++ ("' object has no attribute 'items'" : Text)

/-- The endpoints of a document by key. -/
def endpointsOfMembers : List (Text × Value) → Except LoadError Snapshot
  | [] => .ok []
  | (key,v) :: rest =>
    match Endpoint.check v with
    | .error problems => .error (.invalid problems)
    | .ok e => (endpointsOfMembers rest).map ((key,e) :: ·)

/-- The greatest number of containers around a value in a file, where each body stands in four of them. -/
def maxFileDepth : Nat := Json.maxDepth + 4

/-- The documentation in the JSON file that a path leads to. -/
def Files.load (fs : Files) (p : Path) : Except LoadError Snapshot :=
  match fs.read p with
  | .error e => .error (.unreadable p.toText e.message)
  | .ok content =>
    match Utf8.decode content with
    | .error e => .error (.unreadable p.toText e.message)
    | .ok t =>
      let t := t.withLineFeeds
      match Json.readWithin maxFileDepth t with
      | .error .tooDeep => .error .tooDeep
      | .error e => .error (.unreadable p.toText (e.message t))
      | .ok (.obj members) => endpointsOfMembers members
      | .ok v => .error (.notObject v.kindName)

end ApiDocs
