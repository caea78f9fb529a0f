import ApiTypes.Files.Tree

/-!
# Reading and writing files

A file is read by its path.  Writing makes the directories that are missing on the
way, opens the file, which empties it, and then encodes the text.
-/

namespace ApiTypes

inductive FileFault where
  | obstacle (obstacle : Obstacle) (path : Text)
  /-- The system does not take the path. -/
  | flaw (flaw : PathFlaw)
  /-- A content cannot be encoded. -/
  | unencodable (fault : EncodingFault)
  /-- A fault that the system reports in its own words. -/
  | system (report : Text)
  deriving DecidableEq

namespace FileFault

/-- The report of an operation that fails. -/
def message : FileFault → Text
  | .obstacle kind path =>
      "[Errno " ++ Text.ofNat kind.number ++ "] " ++ kind.message ++ ": " ++ path.quoted
  | .flaw (.unencodable fault) => fault.message
  | .flaw .null => "embedded null byte"
  | .unencodable fault => fault.message
  | .system report => report

end FileFault

namespace Files

/-- The place of what a path leads to. -/
def locate (files : Files) (path : Path) : Except Obstacle Place := do
  let place ← files.follow false path
  if (files.node? place).isSome then return place else throw .notFound

/-- The content of the file that a path names. -/
def read (files : Files) (path : Path) : Except FileFault Bytes :=
  match path.encode with
  | .error flaw => .error (.flaw flaw)
  | .ok _ =>
      match files.locate path with
      | .error obstacle => .error (.obstacle obstacle path.text)
      | .ok place =>
          match files.refuses .read place with
          | some obstacle => .error (.obstacle obstacle path.text)
          | none =>
              match files.node? place with
              | some (.file content) => .ok content
              | some .directory => .error (.obstacle .isADirectory path.text)
              | _ => .error (.obstacle .notFound path.text)

/-- The files after one directory has been made.  The last name is not followed if there is a link
of that name. -/
def makeDirectory (files : Files) (path : Path) : Except Obstacle Files :=
  if isTooLong path then .error .nameTooLong
  else
    match path.steps.getLast? with
    | none => .error .exists
    | some name => do
        let around ← files.walk false mostLinks (files.start path) path.steps.dropLast
        let place ← files.step around name
        if (files.node? place).isSome then throw .exists
        else
          match files.refuses .make place with
          | some obstacle => throw obstacle
          | none => return files.put place .directory

/-- The files after a directory has been made, unless it is there already. -/
def makeMissing (files : Files) (path : Path) : Except Obstacle Files :=
  match files.makeDirectory path with
  | .ok made => .ok made
  | .error .notFound => .error .notFound
  | .error obstacle =>
      match files.locate path with
      | .ok place => if files.node? place = some .directory then .ok files else .error obstacle
      | .error found => .error (if found.isAbsence then obstacle else found)

/-- The files after a directory and the directories on the way to it have been made where they
are missing.  A fault comes with the files that it leaves, since some of the directories may have
been made.  The names of the path are given from the last one to the first. -/
def makeDirectories (files : Files) (root : Text) : List Text → Except (Files × FileFault) Files
  | [] => .ok files
  | name :: names =>
      let path : Path := { root, names := (name :: names).reverse }
      match path.encode with
      | .error flaw => .error (files, .flaw flaw)
      | .ok _ =>
          match files.makeMissing path with
          | .ok made => .ok made
          | .error .notFound => do
              let around ← makeDirectories files root names
              match around.makeMissing path with
              | .ok made => .ok made
              | .error obstacle => .error (around, .obstacle obstacle path.text)
          | .error obstacle => .error (files, .obstacle obstacle path.text)

/-- What is in the way of writing to a place. -/
def obstacle? (files : Files) (place : Place) : Option Obstacle :=
  match files.node? place with
  | some .directory => some .isADirectory
  | some _ => files.refuses .overwrite place
  | none => files.refuses .make place

/-- The place of a file that is to be written. -/
def target (files : Files) (path : Path) : Except FileFault Place :=
  match path.encode with
  | .error flaw => .error (.flaw flaw)
  | .ok _ =>
      match files.follow true path with
      | .error obstacle => .error (.obstacle obstacle path.text)
      | .ok place =>
          match files.obstacle? place with
          | some obstacle => .error (.obstacle obstacle path.text)
          | none => .ok place

/-- Writing of a text, with the files afterwards.  Missing directories are made, and the file is
emptied before the text is encoded. -/
def write (files : Files) (path : Path) (content : Text) : Files × Except FileFault Unit :=
  match files.makeDirectories path.root path.parent.names.reverse with
  | .error (left, fault) => (left, .error fault)
  | .ok made =>
      match made.target path with
      | .error fault => (made, .error fault)
      | .ok place =>
          match content.encode with
          | .ok bytes => (made.put place (.file bytes), .ok ())
          | .error fault => (made.put place (.file []), .error (.unencodable fault))

end Files

end ApiTypes
