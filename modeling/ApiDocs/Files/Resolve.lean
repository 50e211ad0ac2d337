import ApiDocs.Files.Tree
/-!
Paths without links.

A path is resolved name by name: points are dropped, a link is replaced by what it stands for, and
names that lead nowhere are kept.  A link that leads back to itself is a loop, and what is spelled behind
it is not looked at.
-/

namespace ApiDocs

mutual

/-- The number of names between the slashes of the targets of all links below a node, and of the links. -/
def Node.linkWeight : Node → Nat
  | .file _ => 0
  | .link target => (Text.splitOn 0x2F target).length + 1
  | .directory entries => entriesWeight entries

def entriesWeight : List (Text × Node) → Nat
  | [] => 0
  | (_,n) :: rest => n.linkWeight + entriesWeight rest

end

def Place.toText (place : Place) : Text := (Path.mk 1 place).toText

/-- A name that stands for something in a directory. -/
def leadsDown (name : Text) : Bool := !name.isEmpty && name != [0x2E] && name != aroundName

/-- Where one name leads from a place when links are not looked at: two points drop the name in front of them. -/
def Place.step (place : Place) (name : Text) : Place :=
  if leadsDown name then place ++ [name]
  else if name = aroundName then place.dropLast
  else place

/-- A place with what is spelled behind it.  What begins with a slash does so at the root. -/
def Place.behind (place : Place) : List Text → Place
  | [] :: name :: rest => name :: rest
  | rest => place ++ rest

inductive ResolveError where
  | loop (path : Text)
  | file (e : FileError)
  deriving Repr

def ResolveError.message : ResolveError → Text
  | .loop path => ("Symlink loop from " : Text) ++ path.quoted
  | .file e => e.message

namespace Files

/-- What is known about links: where they lead, or that they are being resolved. -/
abbrev Known := List (Place × Option Place)

def known? (known : Known) (link : Place) : Option (Option Place) :=
  (known.find? (·.1 = link)).map (·.2)

/-- The place that names lead to from a place without links, and whether no loop was met; what lies
behind a loop is kept as it is.  The fuel exceeds the number of names and the weight of all links. -/
def resolveNames (fs : Files) (fuel : Nat) (here : Place) (names : List Text) (known : Known) :
    (Place × Bool) × Known :=
  match fuel with
  | 0 => ((here ++ names,false),known)
  | fuel + 1 =>
    match names with
    | [] => ((here,true),known)
    | name :: rest =>
      let next := here.step name
      if !leadsDown name then fs.resolveNames fuel next rest known
      else
        match fs.root.at? next with
        | some (.link target) =>
          match known? known next with
          | some (some place) => fs.resolveNames fuel place rest known
          | some none => ((next.behind rest,false),known)
          | none =>
            let origin := (Path.ofText target).origin here
            match fs.resolveNames fuel origin (Text.splitOn 0x2F target) ((next,none) :: known) with
            | ((place,true),known) => fs.resolveNames fuel place rest ((next,some place) :: known)
            | ((place,false),known) => ((place.behind rest,false),known)
        | _ => fs.resolveNames fuel next rest known

/-- A place without points, each pair of them with the name in front of it. -/
def withoutPoints (place : Place) : Place := place.foldl Place.step []

/-- The place that a path leads to.  Only a path that cannot be followed because of a loop has none. -/
def resolve (fs : Files) (p : Path) : Except ResolveError Place :=
  match checkPath (nullMessage "lstat") p with
  | .error e => .error (.file e)
  | .ok _ =>
    let fuel := p.names.length + fs.root.linkWeight + 1
    let ((place,_),_) := fs.resolveNames fuel (p.origin fs.working) p.names []
    let place := withoutPoints place
    match fs.follow true ⟨1,place⟩ with
    | .nowhere .tooManyLinks => .error (.loop place.toText)
    | _ => .ok place

end Files

end ApiDocs
