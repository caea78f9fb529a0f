import ApiTypes.Data

/-!
# The log

A run reports what it leaves out and what it meets on the way.  Every entry is
an event with a level, the part of the program that reports it, and a message.
`Logged` is a computation that may fail and keeps the entries of both outcomes.
-/

namespace ApiTypes

inductive Format where
  | swagger2
  | openApi3
  deriving DecidableEq, Repr

namespace Format

/-- The name of the shape of documents in a format. -/
def shapeName : Format → Text
  | .swagger2 => "SwaggerDocument"
  | .openApi3 => "OpenApiDocument"

end Format

/-- Why a declaration is not part of the output. -/
inductive DropReason where
  | excluded
  | empty
  | onlyExcludedNames
  deriving DecidableEq, Repr

/-- What the program reports while it runs. -/
inductive Event where
  /-- An entry of a mapping has a key that is no text and is left out of a literal. -/
  | keyDropped (key : Data)
  /-- The name of a declaration is not an identifier. -/
  | invalidName (name : Text)
  /-- A declaration is left out of the output. -/
  | declarationDropped (name : Text) (reason : DropReason)
  /-- A document has not the shape of a format. -/
  | mismatch (format : Format) (issues : Nat)
  /-- A document has the shape of a format. -/
  | recognised (format : Format)
  /-- A document has no section for named schemas. -/
  | noSchemas
  /-- All named schemas of a document have become declarations. -/
  | declared (count : Nat)
  /-- A document is requested from a server. -/
  | fetching (url : Text)

inductive Level where
  | debug
  | warning
  deriving DecidableEq, Repr

namespace Level

def name : Level → Text
  | .debug => "DEBUG"
  | .warning => "WARNING"

end Level

namespace Event

/-- Warnings are events that lose or spoil a part of the output. -/
def level : Event → Level
  | .keyDropped _ => .warning
  | .invalidName _ => .warning
  | _ => .debug

/-- The part of the program that reports an event. -/
def source : Event → Text
  | .keyDropped _ => "ts_oas_generator.model.values"
  | .invalidName _ => "ts_oas_generator.generator.template_engine"
  | .declarationDropped _ _ => "ts_oas_generator.generator.template_engine"
  | .mismatch _ _ => "ts_oas_generator.parser.oas_parser"
  | .recognised _ => "ts_oas_generator.parser.oas_parser"
  | .noSchemas => "ts_oas_generator.parser.translate_v3"
  | .declared _ => "ts_oas_generator.parser.oas_parser"
  | .fetching _ => "ts_oas_generator.utils.fetch"

def message : Event → Text
  | .keyDropped key =>
      "Dropping mapping entry with non-string key " ++ key.display
        ++ ": only string keys are valid in a TypeScript object literal"
  | .invalidName name => "Type name " ++ name.quoted ++ " is not a valid TypeScript identifier"
  | .declarationDropped name .excluded => "Skipping excluded type " ++ name
  | .declarationDropped name .empty => "Skipping empty type " ++ name
  | .declarationDropped name .onlyExcludedNames =>
      "Skipping type " ++ name ++ ": only excluded names remained"
  | .mismatch format issues =>
      "Document does not match " ++ format.shapeName ++ ": " ++ Text.ofNat issues ++ " errors"
  | .recognised format => "Parsed specification as " ++ format.shapeName
  | .noSchemas => "Document has no components.schemas"
  | .declared count => "Translated " ++ Text.ofNat count ++ " named schemas"
  | .fetching url => "Fetching specification from " ++ url

/-- The line of an event in a log. -/
def line (event : Event) : Text :=
  event.level.name ++ " " ++ event.source ++ ": " ++ event.message ++ "\n"

end Event

/-- An outcome with the events on the way to it. -/
structure Logged (fault result : Type) where
  events : List Event
  outcome : Except fault result

namespace Logged

protected def pure (result : α) : Logged ε α :=
  { events := [], outcome := .ok result }

/-- The second computation follows if the first one succeeds. -/
protected def bind (first : Logged ε α) (second : α → Logged ε β) : Logged ε β :=
  match first.outcome with
  | .error fault => { events := first.events, outcome := .error fault }
  | .ok result =>
      let rest := second result
      { events := first.events ++ rest.events, outcome := rest.outcome }

instance : Monad (Logged ε) where
  pure := Logged.pure
  bind := Logged.bind

def report (event : Event) : Logged ε Unit :=
  { events := [event], outcome := .ok () }

def reportAll (events : List Event) : Logged ε Unit :=
  { events, outcome := .ok () }

def ofExcept (outcome : Except ε α) : Logged ε α :=
  { events := [], outcome }

def fail (fault : ε) : Logged ε α :=
  { events := [], outcome := .error fault }

/-- The same computation with its fault told in another way. -/
def mapFault (tell : ε → δ) (computation : Logged ε α) : Logged δ α :=
  { events := computation.events, outcome := computation.outcome.mapError tell }

@[simp] theorem pure_bind (result : α) (next : α → Logged ε β) :
    (pure result >>= next) = next result :=
  rfl

@[simp] theorem map_pure (function : α → β) (result : α) :
    function <$> (pure result : Logged ε α) = pure (function result) :=
  rfl

@[simp] theorem mapFault_pure (tell : ε → δ) (result : α) :
    (pure result : Logged ε α).mapFault tell = pure result :=
  rfl

end Logged

end ApiTypes
