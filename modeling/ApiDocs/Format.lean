import ApiDocs.Path
/-!
The formats of the documentation and the paths it is written to.
-/

namespace ApiDocs

inductive Format where
  | json
  | yaml
  | html
  deriving DecidableEq, Repr

namespace Format

def name : Format → Text
  | .json => "json"
  | .yaml => "yaml"
  | .html => "html"

def all : List Format := [.json,.yaml,.html]

def ofName? (t : Text) : Option Format := all.find? (·.name = t)

/-- The suffix that a file of a format gets, and the others that it may have. -/
def suffixes : Format → Text × List Text
  | .json => (".json",[])
  | .yaml => (".yml",[".yaml"])
  | .html => (".html",[".htm"])

def hasSuffix (format : Format) (t : Text) : Bool :=
  let (own,others) := format.suffixes
  (own :: others).contains (Text.lowerAscii t)

/-- The file name with a suffix of the format: the format's own is added unless one is there. -/
def fileName (format : Format) (name : Text) : Text :=
  if format.hasSuffix (Path.ofText name).suffix then name else name ++ format.suffixes.1

/-- Where the documentation goes: a relative name is seen from the directory, if one is given. -/
def outputPath (format : Format) (name : Text) (directory : Option Path) : Path :=
  let p := Path.ofText (format.fileName name)
  match directory with
  | some d => if p.isAbsolute then p else d.join p
  | none => p

end Format

def ignoredNames : List Text :=
  [".git",".hg",".venv","venv",".tox","__pycache__","node_modules","dist","build",
    ".mypy_cache",".ruff_cache",".pytest_cache"]

def isIgnoredName (name : Text) : Bool :=
  ignoredNames.contains name || Text.endsWith name ".egg-info"

end ApiDocs
