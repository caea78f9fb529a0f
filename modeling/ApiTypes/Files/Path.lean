import ApiTypes.Text.Encoding
import ApiTypes.Text.Quoted

/-!
# Paths

A path is an optional root and the names behind it.  Reading a path drops empty
names and names of one dot; a name of two dots leads to the directory above and
stays.  The system knows a path by the octets of its names.
-/

namespace ApiTypes

/-- A path with its names in order. -/
structure Path where
  /-- Empty for a path from the working directory, otherwise one or two slashes. -/
  root : Text
  names : List Text
  deriving DecidableEq

/-- Why the system does not take a path. -/
inductive PathFlaw where
  | unencodable (fault : EncodingFault)
  /-- No path may hold the code point zero. -/
  | null
  deriving DecidableEq

namespace Path

/-- The root of a text: exactly two slashes are a root of their own. -/
def rootOf (text : Text) : Text :=
  match (text.takeWhile (· = .scalar '/')).length with
  | 0 => []
  | 2 => "//"
  | _ => "/"

def ofText (text : Text) : Path :=
  { root := rootOf text
    names := (text.splitOn '/').filter fun name => !name.isEmpty && name != Text.ofString "." }

/-- The text of a path; the working directory is a dot. -/
def text (path : Path) : Text :=
  if path.root.isEmpty && path.names.isEmpty then "."
  else path.root ++ Text.join "/" path.names

/-- The path without its last name. -/
def parent (path : Path) : Path :=
  { path with names := path.names.dropLast }

/-- A path from the root of all directories. -/
def isAbsolute (path : Path) : Bool :=
  !path.root.isEmpty

def holdsNull (path : Path) : Bool :=
  path.text.any fun point => point.toNat == 0

/-- The octets by which the system knows a path, unless it does not take it. -/
def encode (path : Path) : Except PathFlaw Bytes :=
  match path.text.encodeName with
  | .error fault => .error (.unencodable fault)
  | .ok bytes => if path.holdsNull then .error .null else .ok bytes

/-- The octets of a name.  A name without octets has none; no path with such a name is taken. -/
def nameOctets (name : Text) : Bytes :=
  name.encodeName.toOption.getD []

/-- The octets of the names of a path. -/
def steps (path : Path) : List Bytes :=
  path.names.map nameOctets

end Path

end ApiTypes
