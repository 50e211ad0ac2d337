import ApiDocs.Text.Quoted
/-!
What happens along the way and is worth a record: what was read and written, and which samples were
kept or passed over, and why.
-/

namespace ApiDocs

inductive Severity where
  | debug
  | info
  | error
  deriving DecidableEq, Repr

def Severity.name : Severity → Text
  | .debug => "DEBUG"
  | .info => "INFO"
  | .error => "ERROR"

/-- Something that happened. -/
inductive Event where
  | droppedParameters (file handler line : Text)
  | parsedFile (file : Text) (endpoints : Nat)
  | parsingFiles (files : Nat) (root : Text)
  | wroteDocument (endpoints : Nat) (path : Text)
  | skippedBody (method path : Text)
  | skippedKey (key : Text)
  /-- A sample was kept; the texts are the status as it was given and the shape of the body. -/
  | captured (key status shape : Text)
  | asgiFailed (method path cause : Text)
  | wsgiFailed (method path cause : Text)
  deriving DecidableEq, Repr

namespace Event

def severity : Event → Severity
  | wroteDocument .. => .info
  | asgiFailed .. | wsgiFailed .. => .error
  | _ => .debug

def channel : Event → Text
  | droppedParameters .. | parsedFile .. => "docsgen.extractors.annotations"
  | parsingFiles .. => "docsgen.orchestrator.pipeline"
  | wroteDocument .. => "docsgen.store.serializer"
  | skippedBody .. | skippedKey .. | captured .. => "docsgen.capture.core"
  | asgiFailed .. => "docsgen.capture.asgi"
  | wsgiFailed .. => "docsgen.capture.wsgi"

def message : Event → Text
  | droppedParameters file handler line =>
    file ++ (": dropping malformed @parameters line in " : Text) ++ handler ++ (": " : Text) ++
      line.quoted
  | parsedFile file n =>
    ("parsed " : Text) ++ file ++ (": " : Text) ++ Text.ofNat n ++ (" endpoint(s)" : Text)
  | parsingFiles n root =>
    ("parsing " : Text) ++ Text.ofNat n ++ (" file(s) under " : Text) ++ root
  | wroteDocument n path =>
    ("wrote " : Text) ++ Text.ofNat n ++ (" endpoint(s) to " : Text) ++ path
  | skippedBody method path =>
    ("capture skipped " : Text) ++ method ++ 0x20 :: path ++ (": empty or non-JSON body" : Text)
  | skippedKey key => ("capture skipped " : Text) ++ key ++ (": no documented endpoint" : Text)
  | captured key status shape =>
    ("captured " : Text) ++ key ++ 0x20 :: status ++ 0x20 :: shape
  | asgiFailed method path _ | wsgiFailed method path _ =>
    ("capture failed for " : Text) ++ method ++ 0x20 :: path

def cause? : Event → Option Text
  | asgiFailed _ _ cause | wsgiFailed _ _ cause => some cause
  | _ => none

end Event

end ApiDocs
