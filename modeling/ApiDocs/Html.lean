import ApiDocs.Json.Writer
import ApiDocs.Endpoint
/-!
The documentation as an HTML page.

Every text that goes into the page is escaped on its way in: `escape` leaves no sign of markup in a
text, and `script` none in a JSON text, so the tags of a page are those of the functions below.
-/

namespace ApiDocs.Html

def escapePoint (c : Nat) : Text :=
  if c = 0x26 then "&amp;"
  else if c = 0x3C then "&lt;"
  else if c = 0x3E then "&gt;"
  else if c = 0x22 then "&#34;"
  else if c = 0x27 then "&#39;"
  else [c]

def escape (t : Text) : Text := t.flatMap escapePoint

/-- One code point of a JSON text in a page: where it could be taken for markup, its JSON escape. -/
def scriptPoint (c : Nat) : Text :=
  if c = 0x26 ∨ c = 0x3C ∨ c = 0x3E ∨ c = 0x27 then Json.unitEscape c else [c]

/-- A value in a page, with the members of its objects sorted. -/
def script (v : Value) : Text := (Json.pretty (Json.sortMembers v)).flatMap scriptPoint

/-- The identifier of an endpoint's section: its key with hyphens for blanks. -/
def sectionId (key : Text) : Text := Text.substitute 0x20 [0x2D] key

def parameterRow (p : Parameter) : Text :=
  ("\n      <tr><td>" : Text) ++ escape p.name ++ ("</td><td>" : Text) ++ escape p.type ++
    ("</td><td>" : Text) ++ (if p.required then "yes" else "no" : Text) ++
    ("</td></tr>\n      " : Text)

def parameterTable (ps : List Parameter) : Text :=
  if ps.isEmpty then []
  else
    ("\n    <table>\n      <tr><th>Name</th><th>Type</th><th>Required</th></tr>\n      " : Text) ++
      ps.flatMap parameterRow ++ ("\n    </table>\n    " : Text)

def sample (r : Response) : Text :=
  ("\n    <h3>" : Text) ++ Text.ofInt r.status ++ ("</h3>\n    <pre>" : Text) ++ script r.body ++
    ("</pre>\n    " : Text)

def responseType (t : Text) : Text :=
  if t.isEmpty then [] else (", response: <code>" : Text) ++ escape t ++ ("</code>" : Text)

def endpoint (key : Text) (e : Endpoint) : Text :=
  ("\n  <section id=\"" : Text) ++ escape (sectionId key) ++ ("\">\n    <h2><code>" : Text) ++
    escape e.method ++ ("</code> " : Text) ++ escape e.path ++ ("</h2>\n    <p>" : Text) ++
    escape e.description ++ ("</p>\n    <p>Handler: <code>" : Text) ++ escape e.handler ++
    ("</code>" : Text) ++ responseType e.responseType ++ ("</p>\n    " : Text) ++
    parameterTable e.parameters ++ ("\n    " : Text) ++ e.responses.flatMap sample ++
    ("\n  </section>\n  " : Text)

/-- The whole page. -/
def page (endpoints : List (Text × Endpoint)) : Text :=
  ("<!DOCTYPE html>\n<html lang=\"en\">\n<head>\n  <meta charset=\"utf-8\">\n" : Text) ++
    ("  <title>API documentation</title>\n</head>\n<body>\n" : Text) ++
    ("  <h1>API documentation</h1>\n  " : Text) ++
    (endpoints.flatMap fun (key,e) => endpoint key e) ++ ("\n</body>\n</html>" : Text)

end ApiDocs.Html
