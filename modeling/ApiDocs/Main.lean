import ApiDocs.Command.Run
/-!
The program on the files of the machine.

Only what lies below the root is read; a document that the run wrote into its tree of files is then
written to the machine.
-/

namespace ApiDocs.Machine

def stringOf (t : Text) : String := String.ofList (t.map Char.ofNat)

/-- What stands at a path and below it.  A link is kept with the place that it leads to, and a file
behind it comes along. -/
partial def found (path : String) : IO (List (Path × Node)) := do
  let here := (← IO.currentDir) / path
  let name := Path.ofText path
  match (← here.symlinkMetadata).type with
  | .file => return [(name,.file (← IO.FS.readBinFile here).toList)]
  | .dir =>
    let mut all := [(name,Node.emptyDirectory)]
    for entry in ← here.readDir do
      all := all ++ (← found (here / entry.fileName).toString)
    return all
  | .symlink =>
    let target ← try some <$> IO.FS.realPath here catch _ => pure none
    match target with
    | none => return []
    | some target =>
      let link : Path × Node := (name,.link (Text.ofString target.toString))
      let behind ← match (← target.metadata).type with
        | .file => found target.toString
        | _ => pure [(Path.ofText target.toString,Node.emptyDirectory)]
      return link :: behind
  | .other => return []

def variableNames : List String :=
  ["HOME","DOCSGEN_PATTERN","DOCSGEN_OUTPUT","DOCSGEN_FILENAME","DOCSGEN_LOG_LEVEL"]

def environment : IO (List (Text × Text)) :=
  variableNames.filterMapM fun (name : String) => do
    return (← IO.getEnv name).map fun value => (Text.ofString name,Text.ofString value)

def consoleWidth : IO Nat := do
  return ((← IO.getEnv "COLUMNS").bind String.toNat?).getD 80

def rootOf (environment : List (Text × Text)) (arguments : List Text) : Option Path :=
  let root := match Command.Request.ofArguments arguments with
    | .ok (.generate r) => some r.root
    | .ok (.list r) => some r.root
    | _ => none
  root.bind fun root => (Command.expandHome environment (Path.ofText root)).toOption

/-- The files below the root, seen from the working directory. -/
def filesBelow (root : Option Path) : IO Files := do
  let working := Path.ofText (← IO.currentDir).toString
  let start := { Files.add {} working .emptyDirectory with working := working.names }
  match root with
  | none => return start
  | some root =>
    let here := (← IO.currentDir) / stringOf root.toText
    let real ← try some <$> IO.FS.realPath here catch _ => pure none
    match real with
    | none => return start
    | some real =>
      let entries ← found real.toString
      let tree := entries.foldl (fun tree (path,node) => tree.add path node) start
      return tree.add root (.link (Text.ofString real.toString))

def writeBack (o : Command.Outcome) : IO Unit := do
  for event in o.events do
    if let .wroteDocument _ path := event then
      if let .ok content := o.tree.read (Path.ofText path) then
        let here := (← IO.currentDir) / stringOf path
        if let some around := here.parent then IO.FS.createDirAll around
        IO.FS.writeBinFile here ⟨content.toArray⟩

/-- The program on the files of the machine; the exit code is 1 also for a failure that it does not
report itself. -/
def run (args : List String) : IO UInt32 := do
  let arguments := args.map Text.ofString
  let environment ← environment
  let tree ← filesBelow (rootOf environment arguments)
  let o := Command.run ⟨tree,environment,← consoleWidth⟩ arguments
  writeBack o
  IO.print (stringOf o.printed)
  match o.ending with
  | .misused e => IO.eprintln (stringOf e.message)
  | .broken e => IO.eprintln (stringOf e.message)
  | _ => pure ()
  return (o.ending.exitCode?.getD 1).toUInt32

end ApiDocs.Machine

def main (args : List String) : IO UInt32 := ApiDocs.Machine.run args
