import ApiTypes.Declaration.Selection
import ApiTypes.Files.Path
import ApiTypes.Text.Blank
import ApiTypes.Text.Digit

/-!
# Options of the command line

Arguments are sorted into options and others first, and then taken one after
another.  A long option may be cut short as long as only one option begins that
way, short options may be put together, and an option may have its argument
behind an equals sign.
-/

namespace ApiTypes.CommandLine

inductive Flag where
  | help
  | file
  | url
  | input
  | user
  | password
  | write
  | skipEmpty
  | skipName
  | verbose
  deriving DecidableEq, Repr

namespace Flag

/-- All spellings of options in the order in which they are looked up. -/
def spellings : List (Text × Flag) :=
  [("-h", .help), ("--help", .help), ("--file", .file), ("--url", .url), ("--stdin", .input),
    ("--auth-user", .user), ("--auth-password", .password), ("--write", .write),
    ("--skip-empty-types", .skipEmpty), ("--skip-type-name", .skipName),
    ("--verbose", .verbose), ("-v", .verbose)]

def ofSpelling? (spelling : Text) : Option Flag :=
  spellings.lookup spelling

/-- All spellings of an option, as messages name it. -/
def name (flag : Flag) : Text :=
  Text.join "/" ((spellings.filter fun (_, other) => other = flag).map Prod.fst)

def takesArgument : Flag → Bool
  | .file => true
  | .url => true
  | .user => true
  | .password => true
  | .write => true
  | .skipName => true
  | _ => false

/-- The options of which exactly one has to be given. -/
def sources : List Flag := [.file, .url, .input]

end Flag

inductive UsageFault where
  | argumentExpected (flag : Flag)
  | argumentIgnored (flag : Flag) (argument : Text)
  | notAllowedWith (flag other : Flag)
  | ambiguous (argument : Text) (candidates : List Text)
  | sourceRequired
  | unrecognized (arguments : List Text)
  deriving DecidableEq

namespace UsageFault

/-- The report of arguments that cannot be used. -/
def message : UsageFault → Text
  | .argumentExpected flag => "argument " ++ flag.name ++ ": expected one argument"
  | .argumentIgnored flag argument =>
      "argument " ++ flag.name ++ ": ignored explicit argument " ++ argument.quoted
  | .notAllowedWith flag other =>
      "argument " ++ flag.name ++ ": not allowed with argument " ++ other.name
  | .ambiguous argument candidates =>
      "ambiguous option: " ++ argument ++ " could match " ++ Text.join ", " candidates
  | .sourceRequired =>
      "one of the arguments " ++ Text.join " " (Flag.sources.map Flag.name) ++ " is required"
  | .unrecognized arguments => "unrecognized arguments: " ++ Text.join " " arguments

end UsageFault

/-- An argument as it is sorted. -/
inductive Argument where
  | plain (content : Text)
  /-- Two hyphens, after which there are no options. -/
  | separator
  | unknownOption (content : Text)
  /-- An option, spelled short or long, and what is written behind it. -/
  | option (flag : Flag) (short : Bool) (attached : Option Text)

/-- What stands before and after the first equals sign. -/
def splitAtEquals (argument : Text) : Text × Option Text :=
  match argument.dropWhile (· != .scalar '=') with
  | [] => (argument, none)
  | _ :: rest => (argument.takeWhile (· != .scalar '='), some rest)

def isDecimal (point : CodePoint) : Bool :=
  point.decimalValue?.isSome

/-- A negative number, behind which a line feed may stand. -/
def isNegativeNumber (argument : Text) : Bool :=
  match Text.withoutLineFeed argument with
  | .scalar '-' :: rest =>
      match rest.dropWhile isDecimal with
      | [] => !rest.isEmpty
      | .scalar '.' :: fraction => !fraction.isEmpty && fraction.all isDecimal
      | _ => false
  | _ => false

/-- The spellings that an argument cut short may stand for, with what is attached. -/
def candidates (argument : Text) : List (Text × Flag × Option Text) :=
  match argument with
  | .scalar '-' :: .scalar '-' :: _ =>
      let (opening, attached) := splitAtEquals argument
      (Flag.spellings.filter fun (spelling, _) => (spelling.after? opening).isSome).map
        fun (spelling, flag) => (spelling, flag, attached)
  | _ =>
      Flag.spellings.filterMap fun (spelling, flag) =>
        if spelling = argument.take 2 then some (spelling, flag, some (argument.drop 2))
        else if (spelling.after? argument).isSome then some (spelling, flag, none)
        else none

def isShort (spelling : Text) : Bool :=
  (spelling.drop 1).head? != some (.scalar '-')

/-- The kind of an argument before any separator. -/
def sort (argument : Text) : Except UsageFault Argument :=
  if argument.head? != some (.scalar '-') then .ok (.plain argument)
  else
    match Flag.ofSpelling? argument with
    | some flag => .ok (.option flag (isShort argument) none)
    | none =>
        if argument.length = 1 then .ok (.plain argument)
        else
          let (opening, attached) := splitAtEquals argument
          match attached.bind fun _ => Flag.ofSpelling? opening with
          | some flag => .ok (.option flag (isShort opening) attached)
          | none =>
              match candidates argument with
              | [(spelling, flag, attached)] => .ok (.option flag (isShort spelling) attached)
              | [] =>
                  .ok (if isNegativeNumber argument || argument.contains (.scalar ' ') then
                    .plain argument else .unknownOption argument)
              | several => .error (.ambiguous argument (several.map Prod.fst))

def sortAll : List Text → Except UsageFault (List Argument)
  | [] => .ok []
  | argument :: arguments =>
      if argument = "--" then .ok (.separator :: arguments.map .plain)
      else do
        let sorted ← sort argument
        let others ← sortAll arguments
        return sorted :: others

/-- Short options that are put together: the first one, and the letters behind it. -/
def cluster (flag : Flag) : Text → Except UsageFault (List Flag)
  | [] => .ok [flag]
  | letter :: letters =>
      match Flag.ofSpelling? [.scalar '-', letter] with
      | some next => do return flag :: (← cluster next letters)
      | none => .error (.argumentIgnored flag (letter :: letters))

/-- What has been taken from the arguments so far. -/
structure Taken where
  file : Option Path := none
  url : Option Text := none
  input : Bool := false
  user : Option Text := none
  password : Option Text := none
  output : Option Path := none
  skipsEmpty : Bool := false
  excluded : List Text := []
  verbose : Bool := false
  /-- Arguments that nothing uses. -/
  unused : List Text := []

/-- Why arguments do not lead to a run. -/
inductive Refusal where
  | help
  | usage (fault : UsageFault)
  deriving DecidableEq

namespace Taken

/-- An option that selects a source has been taken. -/
def hasSource (taken : Taken) : Flag → Bool
  | .file => taken.file.isSome
  | .url => taken.url.isSome
  | .input => taken.input
  | _ => false

/-- Another source that has been taken before. -/
def conflict? (taken : Taken) (flag : Flag) : Option Flag :=
  if Flag.sources.contains flag then
    Flag.sources.find? fun other => other != flag && taken.hasSource other
  else none

/-- One more option, with its argument if it has one. -/
def take (taken : Taken) (flag : Flag) (argument : Text) : Except Refusal Taken :=
  match taken.conflict? flag with
  | some other => .error (.usage (.notAllowedWith flag other))
  | none =>
      match flag with
      | .help => .error .help
      | .file => .ok { taken with file := some (Path.ofText argument) }
      | .url => .ok { taken with url := some argument }
      | .input => .ok { taken with input := true }
      | .user => .ok { taken with user := some argument }
      | .password => .ok { taken with password := some argument }
      | .write => .ok { taken with output := some (Path.ofText argument) }
      | .skipEmpty => .ok { taken with skipsEmpty := true }
      | .skipName => .ok { taken with excluded := taken.excluded ++ [argument] }
      | .verbose => .ok { taken with verbose := true }

def takeAll (taken : Taken) : List Flag → Except Refusal Taken
  | [] => .ok taken
  | flag :: flags => do
      let next ← taken.take flag []
      next.takeAll flags

/-- An argument that nothing uses. -/
def leave (taken : Taken) (argument : Text) : Taken :=
  { taken with unused := taken.unused ++ [argument] }

/-- An option with something attached to it. -/
def takeAttached (taken : Taken) (flag : Flag) (short : Bool) (attached : Text) :
    Except Refusal Taken :=
  if flag.takesArgument then taken.take flag attached
  else if short && !attached.isEmpty then
    match cluster flag attached with
    | .ok flags => taken.takeAll flags
    | .error fault => .error (.usage fault)
  else .error (.usage (.argumentIgnored flag attached))

def takeArguments (taken : Taken) : List Argument → Except Refusal Taken
  | [] => .ok taken
  | .plain content :: arguments => takeArguments (taken.leave content) arguments
  | .separator :: arguments => takeArguments (taken.leave "--") arguments
  | .unknownOption content :: arguments => takeArguments (taken.leave content) arguments
  | .option flag short (some attached) :: arguments => do
      let next ← taken.takeAttached flag short attached
      takeArguments next arguments
  | .option flag _ none :: arguments =>
      if flag.takesArgument then
        match arguments with
        | .plain argument :: arguments => do
            let next ← taken.take flag argument
            takeArguments next arguments
        | _ => .error (.usage (.argumentExpected flag))
      else do
        let next ← taken.take flag []
        takeArguments next arguments

end Taken

inductive Source where
  | file (path : Path)
  | url (url : Text)
  | input
  deriving DecidableEq

/-- What a run is asked to do. -/
structure Options where
  source : Source
  user : Option Text
  password : Option Text
  output : Option Path
  selection : Selection
  verbose : Bool

def Taken.source? (taken : Taken) : Option Source :=
  match taken.file, taken.url with
  | some path, _ => some (.file path)
  | none, some url => some (.url url)
  | none, none => if taken.input then some .input else none

def parse (arguments : List Text) : Except Refusal Options := do
  let sorted ←
    match sortAll arguments with
    | .ok sorted => pure sorted
    | .error fault => .error (.usage fault)
  let taken ← Taken.takeArguments {} sorted
  match taken.source? with
  | none => .error (.usage .sourceRequired)
  | some source =>
      if !taken.unused.isEmpty then .error (.usage (.unrecognized taken.unused))
      else
        return {
          source
          user := taken.user
          password := taken.password
          output := taken.output
          selection := { skipsEmpty := taken.skipsEmpty, excluded := taken.excluded }
          verbose := taken.verbose }

end ApiTypes.CommandLine
