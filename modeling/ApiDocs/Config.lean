import ApiDocs.Format
import ApiDocs.Validation
import ApiDocs.Text.Quoted
/-!
Settings of a run.

A setting is given as an argument, or by an environment variable, or has a default; empty values of
the first three count as not given.
-/

namespace ApiDocs

inductive LogLevel where
  | critical
  | fatal
  | error
  | warn
  | warning
  | info
  | debug
  | notSet
  deriving DecidableEq, Repr

namespace LogLevel

def name : LogLevel → Text
  | .critical => "CRITICAL"
  | .fatal => "FATAL"
  | .error => "ERROR"
  | .warn => "WARN"
  | .warning => "WARNING"
  | .info => "INFO"
  | .debug => "DEBUG"
  | .notSet => "NOTSET"

def all : List LogLevel :=
  [.critical,.fatal,.error,.warn,.warning,.info,.debug,.notSet]

/-- The level that has the same weight and goes by its usual name. -/
def canonical : LogLevel → LogLevel
  | .fatal => .critical
  | .warn => .warning
  | level => level

/-- The capital of a letter whose capital is in ASCII: the small ASCII letters, the dotless i and the
long s.  Other code points are kept. -/
def capital (c : Nat) : Nat :=
  if 0x61 ≤ c ∧ c ≤ 0x7A then c - 0x20 else if c = 0x131 then 0x49 else if c = 0x17F then 0x53 else c

/-- The level of a name in any case, with blanks around it. -/
def ofText? (t : Text) : Option LogLevel := all.find? (·.name = (Text.trim t).map capital)

end LogLevel

/-- The settings of a run. -/
structure Config where
  pattern : Text := "*.py"
  output : Format := .json
  filename : Text := "docs.gen"
  logLevel : LogLevel := .info
  deriving DecidableEq, Repr

namespace Config

open Validation

/-- A text setting; an empty value of any kind counts as not given. -/
def textSetting (default : Text) (v : Value) : Checked Text :=
  if v.isTruthy then text v else .ok default

/-- The format, named in either case with blanks around it. -/
def formatSetting (v : Value) : Checked Format :=
  let choose (t : Text) : Checked Format :=
    match Format.ofName? t with
    | some format => .ok format
    | none => fail (.choiceExpected "'json', 'yaml' or 'html'")
  match v with
  | .str t =>
    let name := Text.lowerAscii (Text.trim t)
    if name.isEmpty then .ok .json else choose name
  | v => if v.isTruthy then choose [] else .ok .json

/-- The log level, named in either case with blanks around it. -/
def levelSetting (v : Value) : Checked LogLevel :=
  match text v with
  | .error problems => .error problems
  | .ok t =>
    match LogLevel.ofText? t with
    | some level => .ok level
    | none => fail (.refused (("unknown log level: " : Text) ++ t.quoted))

def settingNames : List Text := ["pattern","output","filename","log_level"]

def variableHead : Text := "docsgen_"

/-- What the environment says about a setting: the last of the variables of its name, in any case. -/
def fromEnvironment? (environment : List (Text × Text)) (setting : Text) : Option Text :=
  (environment.reverse.find? fun (name,_) => Text.lowerAscii name = variableHead ++ setting).map (·.2)

/-- The arguments and, behind them, the settings that only the environment gives. -/
def sources (arguments : List (Text × Value)) (environment : List (Text × Text)) :
    List (Text × Value) :=
  arguments ++ settingNames.filterMap fun setting =>
    (fromEnvironment? environment setting).map fun t => (setting,.str t)

def check (arguments : List (Text × Value)) (environment : List (Text × Text)) : Checked Config :=
  let given := sources arguments environment
  let standard : Config := {}
  ((optional ["pattern"] standard.pattern (textSetting standard.pattern) given).and
    ((optional ["output"] standard.output formatSetting given).and
      ((optional ["filename"] standard.filename (textSetting standard.filename) given).and
        (optional ["log_level"] standard.logLevel levelSetting given)))).map
    fun (pattern,output,filename,logLevel) => ⟨pattern,output,filename,logLevel⟩

end Config

end ApiDocs
