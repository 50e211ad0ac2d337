import ApiDocs.Command.Request
import ApiDocs.Console.Table
import ApiDocs.Generation
/-!
What the program does and prints.

The root is looked at first, then the settings; only when both are right is logging set up and the work
done.  What was printed before a failure stays printed.
-/

namespace ApiDocs.Command

/-! ## Outcomes -/

/-- A failure that the program does not report itself. -/
inductive Failure where
  | markup (e : Console.MarkupError)
  | generation (e : GenerationError)
  | resolve (e : ResolveError)
  | file (e : FileError)
  | homeUnknown
  deriving Repr

def Failure.message : Failure → Text
  | .markup e => e.message
  | .generation e => e.message
  | .resolve e => e.message
  | .file e => e.message
  | .homeUnknown => "Could not determine home directory."

inductive Ending where
  | done
  | failed
  | misused (e : UsageError)
  /-- Help was printed; it was not asked for, but nothing else was. -/
  | advised
  | broken (e : Failure)
  deriving Repr

def Ending.exitCode? : Ending → Option Nat
  | .done => some 0
  | .failed => some 1
  | .misused _ | .advised => some 2
  | .broken _ => none

/-- What a run leaves behind: the tree of files, what was printed, the level of logging, the events
and the ending. -/
structure Outcome where
  tree : Files
  printed : Text := []
  logLevel : LogLevel := .warning
  events : List Event := []
  ending : Ending

/-- Where a run takes place: the files, the environment variables and the width of the console. -/
structure Setting where
  tree : Files
  environment : List (Text × Text)
  width : Nat

/-! ## Printing -/

def printed (width : Nat) (t : Text) : Except Console.MarkupError Text :=
  (Console.shownText t).map fun shown =>
    if width = 0 then []
    else ((Console.Layout.mk width .fold true false).lines shown).flatMap (· ++ [10])

/-- Texts are printed in order, up to the first one with wrong markup. -/
def printAll (width : Nat) : List Text → Text × Option Console.MarkupError
  | [] => ([],none)
  | t :: rest =>
    match printed width t with
    | .error e => ([],some e)
    | .ok lines =>
      let (later,e) := printAll width rest
      (lines ++ later,e)

def Outcome.printing (o : Outcome) (width : Nat) (texts : List Text) : Outcome :=
  let (lines,e) := printAll width texts
  { o with
    printed := o.printed ++ lines
    ending := match e with
      | some e => .broken (.markup e)
      | none => o.ending }

/-! ## The root and the settings -/

inductive RootError where
  | misused (e : UsageError)
  | broken (e : Failure)
  deriving Repr

def homePath? (environment : List (Text × Text)) : Option Path :=
  match (environment.reverse.find? (·.1 = ("HOME" : Text))).map (·.2) with
  | none => none
  | some home =>
    let home : Text := (home.reverse.dropWhile (· == 0x2F)).reverse
    if home.startsWith "~" then none else some (Path.ofText (if home.isEmpty then [0x2F] else home))

/-- The path with the home directory in place of a tilde at its beginning. -/
def expandHome (environment : List (Text × Text)) (p : Path) : Except Failure Path :=
  match p.isAbsolute, p.names with
  | false, name :: rest =>
    if name = ("~" : Text) then
      match homePath? environment with
      | some home => .ok ⟨home.slashes,home.names ++ rest⟩
      | none => .error .homeUnknown
    else if name.startsWith "~" then .error .homeUnknown
    else .ok p
  | _, _ => .ok p

def rootPlace (s : Setting) (root : Text) : Except RootError Place :=
  match expandHome s.environment (Path.ofText root) with
  | .error e => .error (.broken e)
  | .ok p =>
    match s.tree.resolve p with
    | .error e => .error (.broken (.resolve e))
    | .ok place =>
      match s.tree.follow true ⟨1,place⟩ with
      | .node _ (.directory _) => .ok place
      | .node _ _ =>
        .error (.misused (.badValue (("Path is not a directory: " : Text) ++ place.toText)))
      | .nowhere .nameTooLong =>
        .error (.broken (.file (.fault .nameTooLong place.toText)))
      | _ => .error (.misused (.badValue (("Path does not exist: " : Text) ++ place.toText)))

def problemsMessage (problems : List Validation.Problem) : Text :=
  Text.join "; " (problems.map fun p => p.place ++ (": " : Text) ++ p.fault.message)

def configOf (s : Setting) (arguments : List (Text × Value)) : Except UsageError Config :=
  (Config.check arguments s.environment).mapError fun problems => .badValue (problemsMessage problems)

def argument (name : Text) (value : Option Text) : List (Text × Value) :=
  value.toList.map fun t => (name,.str t)

/-! ## Commands -/

/-- The outcome of a generation that failed: it is reported if it can be expected, and breaks the run
otherwise. -/
def Outcome.failing (o : Outcome) (width : Nat) (e : GenerationError) : Outcome :=
  if e.isReported then
    { o with ending := .failed }.printing width [("[bold red]error:[/bold red] " : Text) ++ e.message]
  else { o with ending := .broken (.generation e) }

def maxListed : Nat := 50

/-- The line of an endpoint after a generation. -/
def endpointLine (e : Endpoint) : Text :=
  ("  " : Text) ++ e.method.padRight 6 ++ 0x20 :: e.path.padRight 35 ++ (" -> " : Text) ++ e.handler

def generatedTexts (root : Place) (format : Format) (g : Generated) : List Text :=
  let more := g.endpoints.length - maxListed
  [("[bold green]docsgen[/bold green] generate: " : Text) ++ root.toText,
    ("Files parsed: " : Text) ++ Text.ofNat g.files,
    ("Endpoints found: [bold]" : Text) ++ Text.ofNat g.endpoints.length ++ ("[/bold]" : Text)] ++
  (g.endpoints.take maxListed).map endpointLine ++
  (if more = 0 then [] else [("  … and " : Text) ++ Text.ofNat more ++ (" more" : Text)]) ++
  [("[bold green]Wrote[/bold green] " : Text) ++ format.name ++ (" docs to: " : Text) ++
    g.output.toText]

/-- The directory to write into; an empty one counts as not given. -/
def directoryOf (s : Setting) (directory : Option Text) : Except Failure (Option Path) :=
  match directory with
  | none | some [] => .ok none
  | some t => (expandHome s.environment (Path.ofText t)).map some

def runGenerating (s : Setting) (r : Generating) : Outcome :=
  match rootPlace s r.root with
  | .error (.misused e) => { tree := s.tree, ending := .misused e }
  | .error (.broken e) => { tree := s.tree, ending := .broken e }
  | .ok root =>
    let arguments := argument "pattern" r.pattern ++ argument "output" (r.output.map Format.name) ++
      argument "filename" r.filename ++ argument "log_level" r.logLevel
    match configOf s arguments with
    | .error e => { tree := s.tree, ending := .misused e }
    | .ok config =>
      let start : Outcome :=
        { tree := s.tree, logLevel := config.logLevel.canonical, ending := .done }
      match directoryOf s r.directory with
      | .error e => { start with ending := .broken e }
      | .ok directory =>
        let g := s.tree.generate ⟨1,root⟩ config directory .empty
        let o := { start with tree := g.tree, events := g.outcome.events }
        match g.outcome.result with
        | .error e => o.failing s.width e
        | .ok made => o.printing s.width (generatedTexts root config.output made)

def parameterText (p : Parameter) : Text :=
  p.name ++ 0x3A :: p.type ++ (if p.required then [] else [0x3F])

def endpointColumns (es : List Endpoint) : List Console.Column :=
  [⟨"METHOD",false,es.map Endpoint.method⟩,
    ⟨"PATH",true,es.map Endpoint.path⟩,
    ⟨"HANDLER",true,es.map Endpoint.handler⟩,
    ⟨"PARAMS",true,es.map fun e => Text.join ", " (e.parameters.map parameterText)⟩,
    ⟨"RESPONSE",true,es.map Endpoint.responseType⟩]

def Outcome.printingTable (o : Outcome) (width : Nat) (es : List Endpoint) : Outcome :=
  match o.ending with
  | .done =>
    match Console.tableLines width (endpointColumns es) with
    | .error e => { o with ending := .broken (.markup e) }
    | .ok lines =>
      if width = 0 then o else { o with printed := o.printed ++ lines.flatMap (· ++ [10]) }
  | _ => o

def runListing (s : Setting) (r : Listing) : Outcome :=
  match rootPlace s r.root with
  | .error (.misused e) => { tree := s.tree, ending := .misused e }
  | .error (.broken e) => { tree := s.tree, ending := .broken e }
  | .ok root =>
    match configOf s (argument "pattern" (r.pattern.filter (!·.isEmpty))) with
    | .error e => { tree := s.tree, ending := .misused e }
    | .ok config =>
      let extracted := s.tree.extractTree ⟨1,root⟩ config
      let o : Outcome :=
        { tree := s.tree, logLevel := config.logLevel.canonical, events := extracted.events,
          ending := .done }
      match extracted.result with
      | .error e => o.failing s.width e
      | .ok (_,es) =>
        if r.format.lower = ("json" : Text) then
          { o with printed := Json.pretty (.arr (es.map Endpoint.document)) ++ [10] }
        else
          (o.printing s.width [("[bold]Endpoints:[/bold] " : Text) ++ Text.ofNat es.length]).printingTable
            s.width es

def helpText : Text := Text.join [10] <|
  (["Usage: docsgen COMMAND [OPTIONS] [ROOT]",
    "",
    "Commands:",
    "  generate   Write the documentation of the handlers below ROOT.",
    "             --pattern GLOB, --output json|yaml|html, --filename NAME, --out-dir DIRECTORY,",
    "             --log-level LEVEL",
    "  endpoints  List the endpoints of the handlers below ROOT.",
    "             --pattern GLOB, --format table|json",
    ""] : List String).map Text.ofString

def runRequest (s : Setting) : Request → Outcome
  | .help isAsked =>
    { tree := s.tree, printed := helpText, ending := if isAsked then .done else .advised }
  | .generate r => runGenerating s r
  | .list r => runListing s r

def run (s : Setting) (arguments : List Text) : Outcome :=
  match Request.ofArguments arguments with
  | .error e => { tree := s.tree, ending := .misused e }
  | .ok r => runRequest s r

end ApiDocs.Command
