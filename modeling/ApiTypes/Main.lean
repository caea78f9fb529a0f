import ApiTypes.CommandLine.Run

/-!
# The program

The host of the running program.  Files and the standard streams are those of
the system; there is no transport for requests.
-/

namespace ApiTypes.CommandLine

/-- Octets as they are read from the system. -/
def ofByteArray (bytes : ByteArray) : Bytes :=
  bytes.toList

/-- Octets as the system takes them. -/
def toByteArray (bytes : Bytes) : ByteArray :=
  ByteArray.mk bytes.toArray

/-- The number of an error, which some calls of the system give with the opposite sign. -/
def magnitude (number : UInt32) : Nat :=
  number.toInt32.toInt.natAbs

/-- The number that the system gives to an error, where it may be the number of an obstacle. -/
def numberOf : IO.Error → Nat
  | .noFileOrDirectory _ number _ => magnitude number
  | .alreadyExists _ number _ => magnitude number
  | .inappropriateType _ number _ => magnitude number
  | .invalidArgument _ number _ => magnitude number
  | .permissionDenied _ number _ => magnitude number
  | _ => 0

/-- The fault for an error of the system. -/
def faultOf (path : Path) (error : IO.Error) : FileFault :=
  match Obstacle.ofNumber? (numberOf error) with
  | some obstacle => .obstacle obstacle path.text
  | none => .system (Text.ofString error.toString)

def systemHost : Host IO where
  read path := do
    try
      return .ok (ofByteArray (← IO.FS.readBinFile path.text.toString))
    catch error => return .error (faultOf path error)
  write path content := do
    try
      IO.FS.createDirAll path.parent.text.toString
    catch error => return .error (faultOf path.parent error)
    try
      match content.encode with
      | .ok bytes =>
          IO.FS.writeBinFile path.text.toString (toByteArray bytes)
          return .ok ()
      | .error fault =>
          IO.FS.writeBinFile path.text.toString (toByteArray [])
          return .error (.unencodable fault)
    catch error => return .error (faultOf path error)
  standardInput := do
    let stream ← IO.getStdin
    let mut bytes := ByteArray.empty
    let mut pending := true
    while pending do
      let chunk ← stream.read 65536
      if chunk.isEmpty then pending := false
      bytes := bytes ++ chunk
    return ofByteArray bytes
  request _ := return .noResponse "no transport for requests"
  setOrder := .given
  exhausted := "maximum recursion depth exceeded"

/-- A run with its output on the standard streams. -/
def runProcess (arguments : List String) : IO UInt32 := do
  let outcome ← run systemHost (arguments.map Text.ofString)
  (← IO.getStdout).write (toByteArray outcome.standardOutput)
  (← IO.getStderr).write (toByteArray outcome.standardError)
  return UInt32.ofNat (outcome.code?.getD 1)

end ApiTypes.CommandLine

/-- A run with the arguments of the process. -/
def main (arguments : List String) : IO UInt32 :=
  ApiTypes.CommandLine.runProcess arguments
