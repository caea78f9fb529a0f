import ApiTypes.Files.Path

/-!
# The tree of files

Files, directories and symbolic links below one root.  A name is octets, and a
place is the names on the way to it from the root.  The names of a path are
followed one after another, through the links on the way, from the root or from
the working directory.

What else can be in the way, such as missing permissions or a file system that
takes no new files, is up to the system: for every place it may refuse to search,
to read, to make or to overwrite.
-/

namespace ApiTypes

/-- What can be in the way of an operation on files. -/
inductive Obstacle where
  | notPermitted
  | notFound
  | denied
  | exists
  | notADirectory
  | isADirectory
  | readOnly
  | nameTooLong
  | tooManyLinks
  deriving DecidableEq, Repr

namespace Obstacle

def number : Obstacle → Nat
  | .notPermitted => 1
  | .notFound => 2
  | .denied => 13
  | .exists => 17
  | .notADirectory => 20
  | .isADirectory => 21
  | .readOnly => 30
  | .nameTooLong => 36
  | .tooManyLinks => 40

def all : List Obstacle :=
  [.notPermitted, .notFound, .denied, .exists, .notADirectory, .isADirectory, .readOnly,
    .nameTooLong, .tooManyLinks]

def ofNumber? (number : Nat) : Option Obstacle :=
  all.find? fun obstacle => obstacle.number = number

def message : Obstacle → Text
  | .notPermitted => "Operation not permitted"
  | .notFound => "No such file or directory"
  | .denied => "Permission denied"
  | .exists => "File exists"
  | .notADirectory => "Not a directory"
  | .isADirectory => "Is a directory"
  | .readOnly => "Read-only file system"
  | .nameTooLong => "File name too long"
  | .tooManyLinks => "Too many levels of symbolic links"

/-- Obstacles that tell of nothing but that a path leads nowhere. -/
def isAbsence : Obstacle → Bool
  | .notFound => true
  | .notADirectory => true
  | .tooManyLinks => true
  | _ => false

end Obstacle

/-- The names on the way to a place from the root, as octets. -/
abbrev Files.Place := List Bytes

/-- The path that a symbolic link stands for.  Its names may be dots, and a slash may end it. -/
structure Link where
  isAbsolute : Bool
  names : List Bytes
  endsInSlash : Bool := false
  deriving DecidableEq

/-- The names to follow for a link; an empty one at the end wants a directory. -/
def Link.steps (link : Link) : List Bytes :=
  link.names ++ if link.endsInSlash then [[]] else []

/-- What there is at a place. -/
inductive Node where
  | file (content : Bytes)
  | directory
  | link (link : Link)
  deriving DecidableEq

/-- What can be done with a place. -/
inductive Access where
  /-- Looking for a name in a directory. -/
  | search
  | read
  /-- Making a file or directory where there is nothing. -/
  | make
  | overwrite
  deriving DecidableEq

/-- A tree of files, with the place of the working directory in it. -/
structure Files where
  nodes : List (Files.Place × Node)
  workingDirectory : Files.Place := []
  /-- What the system has against an access for reasons of its own. -/
  refuses : Access → Files.Place → Option Obstacle := fun _ _ => none

namespace Files

/-- What there is at a place.  The working directory and those around it are directories. -/
def node? (files : Files) (place : Place) : Option Node :=
  if place <+: files.workingDirectory then some .directory else files.nodes.lookup place

/-- The nodes after one has been put at a place. -/
def putNode (place : Place) (node : Node) : List (Place × Node) → List (Place × Node)
  | [] => [(place, node)]
  | (present, old) :: nodes =>
      if present = place then (present, node) :: nodes
      else (present, old) :: putNode place node nodes

def put (files : Files) (place : Place) (node : Node) : Files :=
  { files with nodes := putNode place node files.nodes }

/-- The greatest number of octets of a name. -/
def longestName : Nat := 255

/-- The greatest number of octets of a path. -/
def longestPath : Nat := 4095

/-- The greatest number of links on the way to a place. -/
def mostLinks : Nat := 40

/-- The name of the directory itself, one dot. -/
def here : Bytes := [0x2E]

/-- The name of the directory above, two dots. -/
def above : Bytes := [0x2E, 0x2E]

/-- The place that a name leads to from a directory, whatever there is. -/
def step (files : Files) (place : Place) (name : Bytes) : Except Obstacle Place :=
  match files.node? place with
  | some .directory =>
      if name.isEmpty then .ok place
      else
        match files.refuses .search place with
        | some obstacle => .error obstacle
        | none =>
            if name = here then .ok place
            else if name = above then .ok place.dropLast
            else if longestName < name.length then .error .nameTooLong
            else .ok (place ++ [name])
  | some _ => .error .notADirectory
  | none => .error .notFound

/-- The place that names lead to one after another, where `through` follows the names of a link and
those behind it.  Only at the last name there need be nothing, and what is to be made is named. -/
def walkFrom (files : Files) (making : Bool) (through : Place → List Bytes → Except Obstacle Place)
    (place : Place) : List Bytes → Except Obstacle Place
  | [] => .ok place
  | name :: names => do
      let next ← files.step place name
      if making && names = [[]] then .error .isADirectory
      else
        match files.node? next with
        | some (.link link) =>
            through (if link.isAbsolute then [] else place) (link.steps ++ names)
        | some _ => walkFrom files making through next names
        | none => if names.isEmpty then .ok next else .error .notFound

/-- The place that names lead to, through no more than the given number of links. -/
def walk (files : Files) (making : Bool) :
    (links : Nat) → Place → List Bytes → Except Obstacle Place
  | 0 => files.walkFrom making fun _ _ => .error .tooManyLinks
  | links + 1 => files.walkFrom making (files.walk making links)

/-- Where the names of a path begin. -/
def start (files : Files) (path : Path) : Place :=
  if path.isAbsolute then [] else files.workingDirectory

/-- A path has more octets than the system takes. -/
def isTooLong (path : Path) : Bool :=
  decide (longestPath < (Path.nameOctets path.text).length)

/-- The place that a path leads to. -/
def follow (files : Files) (making : Bool) (path : Path) : Except Obstacle Place :=
  if isTooLong path then .error .nameTooLong
  else files.walk making mostLinks (files.start path) path.steps

end Files

end ApiTypes
