import ApiTypes.CommandLine.Usage
import ApiTypes.Files
import ApiTypes.Http
import ApiTypes.Specification.Output
import ApiTypes.Text.Blank

/-!
# Runs of the program

A run reads a specification, generates a module, and delivers it.  It is written
for any host that reads files, asks servers and writes files; `World` is a host
whose state is a value.
-/

namespace ApiTypes.CommandLine

/-- What a run needs from its surroundings, and what is up to them. -/
structure Host (m : Type → Type) where
  read : Path → m (Except FileFault Bytes)
  write : Path → Text → m (Except FileFault Unit)
  standardInput : m Bytes
  request : Request → m Reaction
  setOrder : Yaml.SetOrder
  /-- The words that report an exhausted stack. -/
  exhausted : Text

inductive Failure where
  | file (fault : FileFault)
  | request (fault : RequestFault)
  | rejected (rejection : Rejection)
  | noType (fault : OpenApi.LoweringFault)

inductive Status where
  | success
  | fileNotFound
  | invalidSpecification
  | otherFailure
  | fetchFailure
  /-- The arguments ask for help. -/
  | help
  /-- The arguments cannot be used. -/
  | usage
  deriving DecidableEq, Repr

/-- What a run leaves behind. -/
structure Outcome where
  status : Status
  standardOutput : Bytes
  standardError : Bytes
  /-- The run breaks off while it tells what is wrong, and there is no code. -/
  breaksOff : Bool := false

namespace Status

def code : Status → Nat
  | .success => 0
  | .fileNotFound => 1
  | .invalidSpecification => 2
  | .otherFailure => 3
  | .fetchFailure => 4
  | .help => 0
  | .usage => 2

/-- The run ends before it begins. -/
def isRefusal : Status → Bool
  | .help => true
  | .usage => true
  | _ => false

end Status

/-- The code of a run that comes to its end. -/
def Outcome.code? (outcome : Outcome) : Option Nat :=
  if outcome.breaksOff then none else some outcome.status.code

namespace Failure

def status : Failure → Status
  | .file (.obstacle .notFound _) => .fileNotFound
  | .file _ => .otherFailure
  | .request (.fetch _) => .fetchFailure
  | .request (.broken _) => .otherFailure
  | .rejected rejection => if rejection.isExplained then .invalidSpecification else .otherFailure
  | .noType _ => .otherFailure

def message? : Failure → Option Text
  | .file fault => some fault.message
  | .request fault => some fault.message
  | .rejected rejection => rejection.message?
  | .noType fault => fault.message?

/-- The data that a failure is about can be shown. -/
def isTellable : Failure → Bool
  | .rejected rejection => rejection.isTellable
  | _ => true

/-- The line that reports a failure; a file that is not found is named as the source. -/
def report (failure : Failure) (source : Source) (exhausted : Text) : Text :=
  let message := failure.message?.getD exhausted
  let content : Text :=
    match failure.status with
    | .fileNotFound =>
        let name : Text :=
          match source with
          | .file path => path.text
          | _ => "None"
        "Specification file not found: " ++ name
    | .invalidSpecification => "Invalid specification: " ++ message
    | _ => message
  "Error: " ++ content ++ "\n"

end Failure

/-- The log of a run: all events if it is verbose, otherwise the warnings. -/
def log (verbose : Bool) (events : List Event) : Text :=
  (events.filter fun event => verbose || event.level = .warning).flatMap Event.line

/-- The number of lines that export a type. -/
def countExports (output : Text) : Nat :=
  output.lines.countP fun line => (line.after? "export type ").isSome

/-- What a verbose run tells about its result. -/
def summary (format : Format) (output : Text) : Text :=
  "Detected " ++ format.shapeName ++ "\nGenerated " ++ Text.ofNat (countExports output)
    ++ " type declarations\n"

/-- The module for the octets of a specification, and the format of the specification. -/
def generate (order : Yaml.SetOrder) (selection : Selection) (raw : Bytes) :
    Logged Failure (Format × Text) := do
  let specification ← (Specification.ofBytes order raw).mapFault .rejected
  let output ← (specification.output selection).mapFault .noType
  return (specification.format, output)

/-- The end of a run that fails.  A verbose run shows the data that is wrong as well. -/
def fail (exhausted : Text) (options : Options) (reports : Text) (failure : Failure) : Outcome :=
  { status := failure.status
    standardOutput := []
    standardError := (reports ++ failure.report options.source exhausted).encodeEscaped
    breaksOff := options.verbose && !failure.isTellable }

section Hosts

variable {m : Type → Type} [Monad m]

def obtain (host : Host m) (options : Options) : m (Logged Failure Bytes) :=
  match options.source with
  | .file path => do
      return Logged.ofExcept ((← host.read path).mapError .file)
  | .url url => do
      let request := Request.make url options.user options.password
      let reaction ← host.request request
      return {
        events := [.fetching url]
        outcome := (request.outcome reaction).mapError .request }
  | .input => do
      return Logged.ofExcept (.ok (← host.standardInput))

/-- Delivery of a module to a file or to the standard output. -/
def deliver (host : Host m) (options : Options) (reports output : Text) : m Outcome :=
  match options.output with
  | some path => do
      match ← host.write path output with
      | .error fault => return fail host.exhausted options reports (.file fault)
      | .ok () =>
          let closing : Text :=
            if options.verbose then "TypeScript types written to " ++ path.text ++ "\n" else []
          return {
            status := .success
            standardOutput := []
            standardError := (reports ++ closing).encodeEscaped }
  | none =>
      match output.encode with
      | .error fault => return fail host.exhausted options reports (.file (.unencodable fault))
      | .ok bytes =>
          return {
            status := .success
            standardOutput := bytes
            standardError := reports.encodeEscaped }

def execute (host : Host m) (options : Options) : m Outcome := do
  let obtained ← obtain host options
  match obtained.outcome with
  | .error failure =>
      return fail host.exhausted options (log options.verbose obtained.events) failure
  | .ok raw =>
      let generated := generate host.setOrder options.selection raw
      let reports := log options.verbose (obtained.events ++ generated.events)
      match generated.outcome with
      | .error failure => return fail host.exhausted options reports failure
      | .ok (format, output) =>
          let told : Text := if options.verbose then summary format output else []
          deliver host options (reports ++ told) output

/-- A run with the arguments of a command line. -/
def run (host : Host m) (arguments : List Text) : m Outcome :=
  match parse arguments with
  | .error .help =>
      return { status := .help, standardOutput := help.encodeEscaped, standardError := [] }
  | .error (.usage fault) =>
      return {
        status := .usage
        standardOutput := []
        standardError := (usageReport fault).encodeEscaped }
  | .ok options => execute host options

end Hosts

/-- The surroundings of a run as a value. -/
structure World where
  files : Files
  standardInput : Bytes
  /-- What comes of every request. -/
  reaction : Reaction
  requests : List Request := []
  setOrder : Yaml.SetOrder := .given
  /-- The words that report an exhausted stack. -/
  exhausted : Text := []

namespace World

/-- The host whose state is a world that begins as the given one. -/
def host (world : World) : Host (StateM World) where
  read path := do return (← get).files.read path
  write path content := do
    let world ← get
    let (files, result) := world.files.write path content
    set { world with files }
    return result
  standardInput := do return (← get).standardInput
  request request := do
    let world ← get
    set { world with requests := world.requests ++ [request] }
    return world.reaction
  setOrder := world.setOrder
  exhausted := world.exhausted

@[simp] theorem host_setOrder (world : World) : world.host.setOrder = world.setOrder :=
  rfl

@[simp] theorem host_exhausted (world : World) : world.host.exhausted = world.exhausted :=
  rfl

/-- A run in a world, and the world afterwards. -/
def run (world : World) (arguments : List Text) : Outcome × World :=
  (CommandLine.run world.host arguments).run world

end World

end ApiTypes.CommandLine
