import ApiDocs.Docstring
import ApiDocs.Endpoint
import ApiDocs.Event
import ApiDocs.Source.Outline
import ApiDocs.Text.Utf8
/-!
Endpoints from docstrings.

A function documents an endpoint when the first word of its docstring is `@docs`.  Each line of such a
docstring that begins with `@` is a directive: a first word and the text after it.  Of several lines
with the same directive the last one counts, but for parameters, of which each line adds one.
-/

namespace ApiDocs

/-- What a line of a docstring says. -/
inductive Directive where
  | description (value : Text)
  | path (value : Text)
  | method (value : Text)
  | responseType (value : Text)
  | parameter (p : Parameter)
  /-- A line about a parameter that does not consist of a name, a type and a truth value. -/
  | malformed
  deriving Repr

def docsWord : Text := "@docs"

/-- A parameter from exactly three words; it is required when the third one is `true`. -/
def Parameter.ofText? (t : Text) : Option Parameter :=
  match t.words with
  | [name,type,required] => some ⟨name,type,required == ("true" : Text)⟩
  | _ => none

/-- The directive of a line without white space at its ends; `none` when it has none. -/
def Directive.ofLine? (line : Text) : Option Directive :=
  if !line.startsWith "@" then none
  else line.firstWord?.bind fun (word,rest) =>
    if word = docsWord then some (.description rest)
    else if word = ("@path" : Text) then some (.path rest)
    else if word = ("@method" : Text) then some (.method rest)
    else if word = ("@response" : Text) then some (.responseType rest)
    else if word = ("@parameters" : Text) then
      match Parameter.ofText? rest with
      | some p => some (.parameter p)
      | none => some .malformed
    else none

namespace Endpoint

def add (e : Endpoint) : Directive → Endpoint
  | .description value => { e with description := value }
  | .path value => { e with path := value }
  | .method value => { e with method := value }
  | .responseType value => { e with responseType := value }
  | .parameter p => { e with parameters := e.parameters ++ [p] }
  | .malformed => e

def docLines (doc : Text) : List Text := doc.lines.map Text.trim

/-- The endpoint that the docstring of a handler describes. -/
def ofDocstring (handler doc : Text) : Endpoint :=
  ((docLines doc).filterMap Directive.ofLine?).foldl add { handler }

def isDropped (line : Text) : Bool :=
  match Directive.ofLine? line with
  | some .malformed => true
  | _ => false

/-- The lines of a docstring that are passed over although they are about parameters. -/
def droppedLines (doc : Text) : List Text := (docLines doc).filter isDropped

end Endpoint

inductive ExtractionError where
  | outline (e : Source.OutlineError)
  | null
  | surrogate (e : Utf8.EncodeError)
  /-- A docstring holds nothing but white space after it was cleaned, and is not empty. -/
  | blankDocstring
  deriving Repr

/-- What came of an attempt, and the events along the way. -/
structure Logged (ε α : Type) where
  events : List Event
  result : Except ε α

/-- The first word of a docstring, if it has a docstring that is not empty; a docstring that is blank
has none. -/
def triggerWord (doc : Text) : Except ExtractionError (Option Text) :=
  if doc.isEmpty then .ok none
  else match doc.firstWord? with
    | none => .error .blankDocstring
    | some (word,_) => .ok (some word)

def endpointsOf (file : Text) : List Source.Definition → Logged ExtractionError (List Endpoint)
  | [] => ⟨[],.ok []⟩
  | d :: rest =>
    let doc := Docstring.clean (d.docstring.getD [])
    match triggerWord doc with
    | .error e => ⟨[],.error e⟩
    | .ok word =>
      let later := endpointsOf file rest
      if word = some docsWord then
        ⟨(Endpoint.droppedLines doc).map (.droppedParameters file d.name) ++ later.events,
          later.result.map (Endpoint.ofDocstring d.name doc :: ·)⟩
      else later

/-- The endpoints that a source text documents, in the order of their functions; `file` is named in
the events. -/
def extract (file source : Text) : Logged ExtractionError (List Endpoint) :=
  match Utf8.firstSurrogates? source with
  | some e => ⟨[],.error (.surrogate e)⟩
  | none =>
    if source.contains 0 then ⟨[],.error .null⟩
    else match Source.definitions source with
      | .error e => ⟨[],.error (.outline e)⟩
      | .ok definitions => endpointsOf file definitions

end ApiDocs
