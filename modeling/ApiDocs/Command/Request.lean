import ApiDocs.Command.Options
import ApiDocs.Format
/-!
What the arguments of the program ask for.

The first argument names a command; its options and the root directory follow.
-/

namespace ApiDocs.Command

structure Generating where
  root : Text := "."
  pattern : Option Text := none
  output : Option Format := none
  filename : Option Text := none
  directory : Option Text := none
  logLevel : Option Text := none
  deriving DecidableEq, Repr

structure Listing where
  root : Text := "."
  pattern : Option Text := none
  format : Text := "table"
  deriving DecidableEq, Repr

/-- A request to the program. -/
inductive Request where
  /-- Help is asked for, or given because there are no arguments. -/
  | help (isAsked : Bool)
  | generate (r : Generating)
  | list (r : Listing)
  deriving DecidableEq, Repr

def generatingOptions : List Text :=
  ["--pattern","--output","--filename","--out-dir","--log-level"]

def listingOptions : List Text := ["--pattern","--format"]

/-- The root among the arguments that belong to no option, of which there is at most one. -/
def rootOf : List Text → Except UsageError Text
  | [] => .ok "."
  | [root] => .ok root
  | _ :: extra => .error (.extraArguments extra)

def formatOf (option : Text) : Option Text → Except UsageError (Option Format)
  | none => .ok none
  | some name =>
    match Format.ofName? name with
    | some format => .ok (some format)
    | none => .error (.notAChoice option name (Format.all.map Format.name))

namespace Request

def ofGenerating (arguments : List Text) : Except UsageError Request := do
  let found ← findOptions generatingOptions true {} arguments
  if found.asksHelp then return .help true
  let output ← formatOf "--output" (found.value? "--output")
  let root ← rootOf found.others
  return .generate {
    root, output
    pattern := found.value? "--pattern"
    filename := found.value? "--filename"
    directory := found.value? "--out-dir"
    logLevel := found.value? "--log-level" }

def ofListing (arguments : List Text) : Except UsageError Request := do
  let found ← findOptions listingOptions true {} arguments
  if found.asksHelp then return .help true
  let root ← rootOf found.others
  return .list {
    root
    pattern := found.value? "--pattern"
    format := (found.value? "--format").getD "table" }

/-- The request of a command with its arguments.  Options in place of a command are looked at as such. -/
def ofCommand (name : Text) (arguments : List Text) : Except UsageError Request :=
  if name = ("generate" : Text) then ofGenerating arguments
  else if name = ("endpoints" : Text) then ofListing arguments
  else do
    let found ← findOptions [] false {} (name :: arguments)
    if found.asksHelp then return .help true
    throw (.unknownCommand name)

/-- The request that arguments make. -/
def ofArguments (arguments : List Text) : Except UsageError Request :=
  if arguments.isEmpty then .ok (.help false)
  else do
    let found ← findOptions [] false {} arguments
    if found.asksHelp then return .help true
    match found.others with
    | [] => throw .commandMissing
    | name :: rest => ofCommand name rest

end Request

end ApiDocs.Command
