import ApiDocs.Path
import ApiDocs.Text.Quoted
import ApiDocs.Text.Utf8
/-!
Files in a tree of directories.

A tree holds files, symbolic links and directories; a place in it is the list of names on the way from
the root.  Relative paths are seen from the working directory.
-/

namespace ApiDocs

/-- What stands at a place.  A link keeps its target as it was spelled. -/
inductive Node where
  | file (content : Bytes)
  | link (target : Text)
  | directory (entries : List (Text × Node))
  deriving Repr

/-- The names from the root to a place. -/
abbrev Place := List Text

namespace Node

def emptyDirectory : Node := .directory []

instance : Inhabited Node := ⟨emptyDirectory⟩

/-- The entries of a directory; nothing else has any. -/
def entries : Node → List (Text × Node)
  | .directory entries => entries
  | _ => []

def entry? (n : Node) (name : Text) : Option Node := (n.entries.find? (·.1 = name)).map (·.2)

/-- What stands at a place below, without following links. -/
def at? (n : Node) : Place → Option Node
  | [] => some n
  | name :: rest => (n.entry? name).bind (·.at? rest)

/-- An entry is bound to a new node where it stands, or added at the end. -/
def bind (name : Text) (new : Node) : List (Text × Node) → List (Text × Node)
  | [] => [(name,new)]
  | (other,old) :: rest =>
    if other = name then (other,new) :: rest else (other,old) :: bind name new rest

/-- A node is put at a place below, in directories that exist. -/
def put (n : Node) (place : Place) (new : Node) : Node :=
  match place with
  | [] => new
  | name :: rest =>
    match n with
    | .directory entries =>
      match (entries.find? (·.1 = name)).map (·.2) with
      | some child => .directory (bind name (child.put rest new) entries)
      | none => if rest.isEmpty then .directory (bind name new entries) else n
    | n => n

end Node

/-- A tree of files with a working directory. -/
structure Files where
  root : Node := .emptyDirectory
  working : Place := []

/-! ## Faults -/

inductive FileFault where
  | missing
  | exists
  | notDirectory
  | isDirectory
  | nameTooLong
  | tooManyLinks
  deriving DecidableEq, Repr

def FileFault.number : FileFault → Nat
  | .missing => 2
  | .exists => 17
  | .notDirectory => 20
  | .isDirectory => 21
  | .nameTooLong => 36
  | .tooManyLinks => 40

def FileFault.words : FileFault → Text
  | .missing => "No such file or directory"
  | .exists => "File exists"
  | .notDirectory => "Not a directory"
  | .isDirectory => "Is a directory"
  | .nameTooLong => "File name too long"
  | .tooManyLinks => "Too many levels of symbolic links"

/-- Why an operation on a path fails. -/
inductive FileError where
  | fault (f : FileFault) (path : Text)
  | null (operation : Text)
  | surrogate (e : Utf8.EncodeError)
  deriving Repr

def FileError.message : FileError → Text
  | .fault f path =>
    ("[Errno " : Text) ++ Text.ofNat f.number ++ ("] " : Text) ++ f.words ++ (": " : Text) ++
      path.quoted
  | .null operation => operation
  | .surrogate e => e.message

def nullMessage (operation : Text) : Text :=
  operation ++ (": embedded null character in path" : Text)

/-! ## Following paths -/

/-- Where a path leads: to a node, to a place in a directory where nothing stands yet, or nowhere. -/
inductive Reached where
  | node (place : Place) (n : Node)
  | absent (directory : Place) (name : Text)
  | nowhere (f : FileFault)
  deriving Repr

/-- Where a path leads up to the first link that is followed: the link stands in a directory, and names
come behind it. -/
inductive Stretch where
  | reached (r : Reached)
  | link (directory : Place) (target : Text) (rest : List Text)

/-- How the spelling of a path ends: with a name, or so that it asks for a directory, with a point or with a
slash behind a name. -/
inductive Ending where
  | name
  | point
  | slash
  deriving DecidableEq

/-- How a text ends that spells a path. -/
def Ending.ofText (t : Text) : Ending :=
  match ((Text.splitOn 0x2F t).filter (!·.isEmpty)).getLast? with
  | none => .name
  | some last => if last = [0x2E] then .point else if t.getLast? = some 0x2F then .slash else .name

/-- Nothing but a directory is reached where one is asked for. -/
def Reached.asked (forDirectory : Bool) (r : Reached) : Reached :=
  if forDirectory then
    match r with
    | .node place (.directory entries) => .node place (.directory entries)
    | .node _ _ => .nowhere .notDirectory
    | .absent _ _ => .nowhere .missing
    | .nowhere f => .nowhere f
  else r

def aroundName : Text := [0x2E,0x2E]

def maxNameOctets : Nat := 255

def maxPathOctets : Nat := 4095

def maxLinks : Nat := 40

def octetCount (t : Text) : Nat := (t.flatMap Utf8.encodePoint).length

/-- The place where a path begins that is seen from another place. -/
def Path.origin (here : Place) (p : Path) : Place := if p.isAbsolute then [] else here

namespace Files

/-- The names of a path are followed from a place on up to the first link; a link at the end counts as
such only if `followLast`. -/
def stretch (fs : Files) (followLast : Bool) (here : Place) (n : Node) : List Text → Stretch
  | [] => .reached (.node here n)
  | name :: rest =>
    match n with
    | .directory _ =>
      if name = aroundName then
        fs.stretch followLast here.dropLast ((fs.root.at? here.dropLast).getD default) rest
      else if maxNameOctets < octetCount name then .reached (.nowhere .nameTooLong)
      else match n.entry? name with
        | none => .reached (if rest.isEmpty then .absent here name else .nowhere .missing)
        | some (.link target) =>
          if rest.isEmpty && !followLast then .reached (.node (here ++ [name]) (.link target))
          else .link here target rest
        | some child => fs.stretch followLast (here ++ [name]) child rest
    | _ => .reached (.nowhere .notDirectory)

/-- Where names lead from a place on; at most so many links are followed.  `forDirectory` tells that a directory
is asked for there, `toWrite` that a file is to be written: then a link that ends the way is refused when its
target ends with a slash, once the directory around is reached. -/
def followNames (fs : Files) (followLast toWrite : Bool) :
    (links : Nat) → (forDirectory : Bool) → Place → List Text → Reached
  | links, forDirectory, here, names =>
    match fs.stretch followLast here ((fs.root.at? here).getD default) names with
    | .reached r => r.asked forDirectory
    | .link directory target rest =>
      match links with
      | 0 => .nowhere .tooManyLinks
      | links + 1 =>
        let path := Path.ofText target
        let here := path.origin directory
        if toWrite && rest.isEmpty && Ending.ofText target = .slash then
          match fs.followNames true false links true here path.names.dropLast with
          | .nowhere f => .nowhere f
          | _ => .nowhere .isDirectory
        else
          let forDirectory := forDirectory || rest.isEmpty && Ending.ofText target ≠ .name
          let toWrite := toWrite && !(rest.isEmpty && Ending.ofText target = .point)
          fs.followNames followLast toWrite links forDirectory here (path.names ++ rest)

/-- Where a path leads that is not too long. -/
def reach (fs : Files) (followLast toWrite : Bool) (p : Path) : Reached :=
  if maxPathOctets < octetCount p.toText then .nowhere .nameTooLong
  else fs.followNames followLast toWrite maxLinks false (p.origin fs.working) p.names

/-- Where a path leads. -/
def follow (fs : Files) (followLast : Bool) (p : Path) : Reached := fs.reach followLast false p

/-- Where a path leads to which a file is written. -/
def followToWrite (fs : Files) (p : Path) : Reached := fs.reach true true p

def exists? (fs : Files) (p : Path) : Option Node :=
  match fs.follow true p with
  | .node _ n => some n
  | _ => none

def isDirectory (fs : Files) (p : Path) : Bool :=
  match fs.exists? p with
  | some (.directory _) => true
  | _ => false

/-- A path that can be handed to the tree: without a null, and without surrogates other than those
that stand for single octets.  `null` words the refusal of a null. -/
def checkPath (null : Text) (p : Path) : Except FileError Unit :=
  let t := p.toText
  match Utf8.firstSurrogates? (t.filter fun c => !(0xDC80 ≤ c && c ≤ 0xDCFF)) with
  | some _ =>
    match Utf8.firstSurrogates? t with
    | some e => .error (.surrogate e)
    | none => .ok ()
  | none => if t.contains 0 then .error (.null null) else .ok ()

/-! ## Reading and writing -/

def openNull : Text := "embedded null byte"

/-- The content of the file that a path leads to. -/
def read (fs : Files) (p : Path) : Except FileError Bytes :=
  match checkPath openNull p with
  | .error e => .error e
  | .ok _ =>
    match fs.follow true p with
    | .node _ (.file content) => .ok content
    | .node _ _ => .error (.fault .isDirectory p.toText)
    | .absent _ _ => .error (.fault .missing p.toText)
    | .nowhere f => .error (.fault f p.toText)

/-- A file is written where a path leads; a file that stands there is replaced. -/
def write (fs : Files) (p : Path) (content : Bytes) : Except FileError Files :=
  match checkPath openNull p with
  | .error e => .error e
  | .ok _ =>
    match fs.followToWrite p with
    | .node place (.file _) => .ok { fs with root := fs.root.put place (.file content) }
    | .node _ _ => .error (.fault .isDirectory p.toText)
    | .absent directory name =>
      .ok { fs with root := fs.root.put (directory ++ [name]) (.file content) }
    | .nowhere f => .error (.fault f p.toText)

/-- A directory is made where nothing stands. -/
def makeDirectory (fs : Files) (p : Path) : Except FileFault Files :=
  match fs.follow false p with
  | .node _ _ => .error .exists
  | .absent directory name => .ok { fs with root := fs.root.put (directory ++ [name]) .emptyDirectory }
  | .nowhere f => .error f

/-- A directory that cannot be made may stand already. -/
def standing (fs : Files) (p : Path) (f : FileFault) : Files × Except FileError Unit :=
  if f = .missing then (fs,.error (.fault f p.toText))
  else match fs.follow true p with
    | .node _ (.directory _) => (fs,.ok ())
    | .nowhere .nameTooLong => (fs,.error (.fault .nameTooLong p.toText))
    | _ => (fs,.error (.fault f p.toText))

/-- A directory and those around it are made unless they exist.  What was made stays when a later one
cannot be made.  The fuel exceeds the number of names. -/
def makeDirectories (fuel : Nat) (fs : Files) (p : Path) : Files × Except FileError Unit :=
  match fuel with
  | 0 => (fs,.ok ())
  | fuel + 1 =>
    match fs.makeDirectory p with
    | .ok fs => (fs,.ok ())
    | .error .missing =>
      if p.names.isEmpty then (fs,.error (.fault .missing p.toText))
      else match makeDirectories fuel fs p.parent with
        | (fs,.error e) => (fs,.error e)
        | (fs,.ok _) =>
          match fs.makeDirectory p with
          | .ok fs => (fs,.ok ())
          | .error f => fs.standing p f
    | .error f => fs.standing p f

/-- The directory of a path exists or is made, with those around it. -/
def ensureDirectory (fs : Files) (p : Path) : Files × Except FileError Unit :=
  match checkPath (nullMessage "mkdir") p with
  | .error e => (fs,.error e)
  | .ok _ => makeDirectories (p.names.length + 1) fs p

/-- The tree with a node where a path leads, and with the directories around it.  A file takes the
place of a file; a link or directory is put only where nothing stands yet. -/
def add (fs : Files) (p : Path) (n : Node) : Files :=
  let fs := (fs.ensureDirectory p.parent).1
  match n with
  | .file content => (fs.write p content).toOption.getD fs
  | n =>
    match fs.follow false p with
    | .absent directory name => { fs with root := fs.root.put (directory ++ [name]) n }
    | _ => fs

end Files

end ApiDocs
