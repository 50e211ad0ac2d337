import ApiDocs.DocsFile
import ApiDocs.Files.Scan
import ApiDocs.Registry
/-!
Generating documentation from a tree of source files.

The files are scanned and read in order, and the first one that cannot be read stops everything: no
endpoint is registered and nothing is written unless all files were read.
-/

namespace ApiDocs

/-- Why documentation cannot be generated. -/
inductive GenerationError where
  | noFiles (pattern : Text)
  | unreadable (path reason : Text)
  | extraction (path : Text) (e : ExtractionError)
  | refused (e : FileError)
  | resolve (e : ResolveError)
  | save (e : SaveError)
  deriving Repr

def noFilesMessage (pattern : Text) : Text :=
  if pattern.isEmpty then "no files to parse"
  else ("no files to parse (pattern=" : Text) ++ pattern.quoted ++ (")" : Text)

def parseFailure (path reason : Text) : Text :=
  ("failed to parse " : Text) ++ path ++ (": " : Text) ++ reason

def ExtractionError.message : ExtractionError → Text
  | .outline (.refused (.notPython line wording)) =>
    ("line " : Text) ++ Text.ofNat line ++ (": " : Text) ++ wording
  | .outline (.refused .noMemory) => ""
  | .outline .tooDeep => "maximum recursion depth exceeded during ast construction"
  | .null => "source code string cannot contain null bytes"
  | .surrogate e => e.message
  | .blankDocstring => "list index out of range"

namespace GenerationError

/-- The error is one of the files or of the documentation, and no fault of the program. -/
def isReported : GenerationError → Bool
  | noFiles _ | unreadable .. | extraction _ (.outline (.refused (.notPython ..))) => true
  | save (.render _) | save (.write ..) => true
  | _ => false

def message : GenerationError → Text
  | noFiles pattern => noFilesMessage pattern
  | unreadable path reason => parseFailure path reason
  | extraction path (.outline (.refused (.notPython line wording))) =>
    parseFailure path (ExtractionError.outline (.refused (.notPython line wording))).message
  | extraction _ e => e.message
  | refused e => e.message
  | resolve e => e.message
  | save e => e.message

end GenerationError

namespace Logged

def andThen {ε α β : Type} (a : Logged ε α) (next : α → Logged ε β) : Logged ε β :=
  match a.result with
  | .error e => ⟨a.events,.error e⟩
  | .ok x =>
    let b := next x
    ⟨a.events ++ b.events,b.result⟩

def mapError {ε δ α : Type} (f : ε → δ) (a : Logged ε α) : Logged δ α := ⟨a.events,a.result.mapError f⟩

end Logged

/-- The endpoints that a file documents. -/
def Files.extractFile (fs : Files) (p : Path) : Logged GenerationError (List Endpoint) :=
  let path := p.toText
  match fs.read p with
  | .error (.fault f name) => ⟨[],.error (.unreadable path (FileError.fault f name).message)⟩
  | .error e => ⟨[],.error (.refused e)⟩
  | .ok content =>
    match Utf8.decode content with
    | .error e => ⟨[],.error (.unreadable path e.message)⟩
    | .ok t => (extract path t.withLineFeeds).mapError (.extraction path)

def Files.extractEach (fs : Files) : List Text → Logged GenerationError (List Endpoint)
  | [] => ⟨[],.ok []⟩
  | path :: rest =>
    (fs.extractFile (Path.ofText path)).andThen fun found =>
      Logged.andThen ⟨[.parsedFile path found.length],.ok ()⟩ fun _ =>
        (fs.extractEach rest).andThen fun later => ⟨[],.ok (found ++ later)⟩

def Files.extractFiles (fs : Files) (paths : List Text) : Logged GenerationError (List Endpoint) :=
  if paths.isEmpty then ⟨[],.error (.noFiles [])⟩ else fs.extractEach paths

/-- The files below a path that match the pattern of the settings, and the endpoints in them. -/
def Files.extractTree (fs : Files) (root : Path) (config : Config) :
    Logged GenerationError (List Place × List Endpoint) :=
  match fs.resolve root with
  | .error e => ⟨[],.error (.resolve e)⟩
  | .ok place =>
    match fs.scan ⟨1,place⟩ config.pattern none with
    | .error e => ⟨[],.error (.resolve e)⟩
    | .ok [] => ⟨[],.error (.noFiles config.pattern)⟩
    | .ok places =>
      Logged.andThen ⟨[.parsingFiles places.length root.toText],.ok ()⟩ fun _ =>
        (fs.extractFiles (places.map Place.toText)).andThen fun found => ⟨[],.ok (places,found)⟩

structure Registration where
  registry : Registry
  outcome : Logged GenerationError Registry

/-- The endpoints below a path are read, and then registered behind those of a registry. -/
def Files.registration (fs : Files) (root : Path) (config : Config) (r : Registry) : Registration :=
  let extracted := fs.extractTree root config
  match extracted.result with
  | .error e => ⟨r,⟨extracted.events,.error e⟩⟩
  | .ok (_,found) =>
    let r := r.load found
    ⟨r,⟨extracted.events,.ok r⟩⟩

def Files.register (fs : Files) (root : Path) (config : Config) (r : Registry) :
    Logged GenerationError Registry :=
  (fs.registration root config r).outcome

/-- What a run generated: the number of files that were read, their endpoints in order, and where the
documentation was written. -/
structure Generated where
  files : Nat
  endpoints : List Endpoint
  output : Path

structure Generation where
  tree : Files
  registry : Registry
  outcome : Logged GenerationError Generated

/-- The endpoints below a path are registered behind those of a registry, and the documentation of all
of them is written. -/
def Files.generate (fs : Files) (root : Path) (config : Config) (directory : Option Path)
    (r : Registry) : Generation :=
  let extracted := fs.extractTree root config
  match extracted.result with
  | .error e => ⟨fs,r,⟨extracted.events,.error e⟩⟩
  | .ok (places,found) =>
    let r := r.load found
    let (fs,saved) := fs.save r.snapshot config directory
    ⟨fs,r,⟨extracted.events ++ saved.events,
      (saved.result.map fun path => ⟨places.length,found,path⟩).mapError .save⟩⟩

end ApiDocs
