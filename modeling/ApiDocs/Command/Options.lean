import ApiDocs.Text.Quoted
import ApiDocs.Text.Similarity
/-!
Options among the arguments of a command.

An option is named by two dashes and a word and has a value, which follows it or stands behind an equals
sign; only the option for help has none.  Of an option that is given again the last value counts.  Behind
two dashes alone nothing is an option.
-/

namespace ApiDocs.Command

inductive UsageError where
  | commandMissing
  | unknownCommand (name : Text)
  | unknownOption (name : Text) (known : List Text)
  | unknownLetter (letter : Nat)
  | valueMissing (option : Text)
  | valueForbidden (option : Text)
  | notAChoice (option value : Text) (choices : List Text)
  | extraArguments (arguments : List Text)
  | badValue (reason : Text)
  deriving DecidableEq, Repr

def commandNames : List Text := ["generate","endpoints"]

namespace UsageError

def proposal : List Text → Text
  | [] => []
  | [name] => (" Did you mean " : Text) ++ name ++ ("?" : Text)
  | names =>
    (" (Possible options: " : Text) ++ Text.join ", " (names.mergeSort Text.le) ++ (")" : Text)

def message : UsageError → Text
  | commandMissing => "Missing command."
  | unknownCommand name =>
    ("No such command " : Text) ++ name.quoted ++
      match Text.alikeOf name commandNames with
      | [] => ("." : Text)
      | names =>
        (". Did you mean " : Text) ++ Text.join ", " (names.map Text.quoted) ++ ("?" : Text)
  | unknownOption name known =>
    ("No such option: " : Text) ++ name ++ proposal (Text.alikeOf name known)
  | unknownLetter letter => ("No such option: -" : Text) ++ [letter]
  | valueMissing option => ("Option " : Text) ++ option.quoted ++ (" requires an argument." : Text)
  | valueForbidden option =>
    ("Option " : Text) ++ option.quoted ++ (" does not take a value." : Text)
  | notAChoice option value choices =>
    ("Invalid value for " : Text) ++ option.quoted ++ (": Value error, " : Text) ++ value.quoted ++
      (" is not one of " : Text) ++ Text.join ", " (choices.map Text.quoted) ++ ("." : Text)
  | extraArguments arguments =>
    ("Got unexpected extra argument(s) (" : Text) ++ Text.join [0x20] arguments ++ (")" : Text)
  | badValue reason => ("Invalid value: " : Text) ++ reason

end UsageError

def helpOption : Text := "--help"

/-- What is found among arguments: values by option, the last one first, and the arguments that belong
to no option. -/
structure Found where
  values : List (Text × Text) := []
  others : List Text := []
  asksHelp : Bool := false
  deriving DecidableEq, Repr

def isOption (argument : Text) : Bool := argument.startsWith "-" && 1 < argument.length

/-- The name of an option and, behind an equals sign, its value. -/
def splitOption (argument : Text) : Text × Option Text :=
  match argument.dropWhile (· ≠ 0x3D) with
  | [] => (argument,none)
  | _ :: value => (argument.takeWhile (· ≠ 0x3D),some value)

def unknown (valued : List Text) (argument name : Text) : UsageError :=
  match argument with
  | 0x2D :: c :: _ =>
    if c = 0x2D then .unknownOption name (valued ++ [helpOption]) else .unknownLetter c
  | _ => .unknownOption name (valued ++ [helpOption])

/-- The options among arguments, of which some have values.  Unless they are `mixed`, the first argument
that is no option ends the options. -/
def findOptions (valued : List Text) (mixed : Bool) (found : Found) :
    List Text → Except UsageError Found
  | [] => .ok found
  | argument :: rest =>
    if argument = ("--" : Text) then .ok { found with others := found.others ++ rest }
    else if isOption argument then
      let (name,value) := splitOption argument
      if name = helpOption then
        match value with
        | some _ => .error (.valueForbidden name)
        | none => findOptions valued mixed { found with asksHelp := true } rest
      else if valued.contains name then
        match value with
        | some v => findOptions valued mixed { found with values := (name,v) :: found.values } rest
        | none =>
          match rest with
          | v :: rest =>
            findOptions valued mixed { found with values := (name,v) :: found.values } rest
          | [] => .error (.valueMissing name)
      else .error (unknown valued argument name)
    else if mixed then
      findOptions valued mixed { found with others := found.others ++ [argument] } rest
    else .ok { found with others := found.others ++ argument :: rest }

def Found.value? (f : Found) (option : Text) : Option Text :=
  (f.values.find? (·.1 = option)).map (·.2)

end ApiDocs.Command
