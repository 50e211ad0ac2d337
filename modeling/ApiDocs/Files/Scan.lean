import ApiDocs.Files.Glob
import ApiDocs.Files.Resolve
import ApiDocs.Format
/-!
Scanning a tree for source files.

In each directory the files come first whose names match the pattern, sorted by name, and then what is
found in the directories in it, sorted by name.  Directories with an ignored name are left out, and
those behind links are not descended into; a link to anything else counts as a file.
-/

namespace ApiDocs

/-- What a scan finds at an entry: a file, or the files in a directory. -/
inductive Finding where
  | file
  | inside (places : List Place)

namespace Files

/-- The names and findings of a directory, with all its files in front. -/
def collect (here : Place) (findings : List (Text × Finding)) : List Place :=
  let sorted := findings.mergeSort fun a b => Text.le a.1 b.1
  sorted.filterMap (fun (name,f) => match f with
    | .file => some (here ++ [name])
    | .inside _ => none) ++
  sorted.flatMap fun (_,f) => match f with
    | .file => []
    | .inside places => places

mutual

/-- The places below a node whose names match, links not resolved. -/
def matching (fs : Files) (pattern : Text) (here : Place) : Node → List Place
  | .directory entries => collect here (findings fs pattern here entries)
  | _ => []

def findings (fs : Files) (pattern : Text) (here : Place) : List (Text × Node) → List (Text × Finding)
  | [] => []
  | (name,n) :: rest =>
    let later := findings fs pattern here rest
    let isDirectory := match n with
      | .directory _ => true
      | .file _ => false
      | .link _ => fs.isDirectory ⟨1,here ++ [name]⟩
    if isDirectory then
      if isIgnoredName name then later
      else (name,.inside (matching fs pattern (here ++ [name]) n)) :: later
    else if Glob.accepts pattern name then (name,.file) :: later
    else later

end

/-- Places are resolved in order until enough are found; at least one is, if there is any. -/
def resolveSome (fs : Files) (limit : Option Int) : List Place → Except ResolveError (List Place)
  | [] => .ok []
  | place :: rest =>
    match fs.resolve ⟨1,place⟩ with
    | .error e => .error e
    | .ok found =>
      if limit.any (· ≤ 1) then .ok [found]
      else (fs.resolveSome (limit.map (· - 1)) rest).map (found :: ·)

/-- The places of the files below a path whose names match a pattern. -/
def scan (fs : Files) (p : Path) (pattern : Text) (limit : Option Int) :
    Except ResolveError (List Place) :=
  match checkPath (nullMessage "scandir") p with
  | .error e => .error (.file e)
  | .ok _ =>
    match fs.follow true p with
    | .node place n => fs.resolveSome limit (fs.matching pattern place n)
    | _ => .ok []

end Files

end ApiDocs
