import ApiTypes.Json.Load
import ApiTypes.Log
import ApiTypes.OpenApi.Reading
import ApiTypes.Swagger.Reading
import ApiTypes.Yaml.Load

/-!
# Specifications

A specification comes as octets, as text or as data.  Text that begins with a
brace is JSON, all other text YAML.  Data is read as a document of the older
format first and of the newer format if that fails.
-/

namespace ApiTypes

/-- A document of one of the formats. -/
inductive Specification where
  | swagger (document : Swagger.Document)
  | openApi (document : OpenApi.Document)

inductive LoadFault where
  | json (fault : Json.Fault)
  | yaml (fault : Yaml.Fault)
  deriving DecidableEq

inductive Rejection where
  | notUnicode (fault : DecodingFault)
  | notLoaded (fault : LoadFault)
  /-- The root is data of another kind than a mapping. -/
  | rootNotMapping (kind : Text)
  /-- The data has the shape of neither format. -/
  | mismatch (swagger openApi : List Shape.Issue)
  /-- An integer stands for a text and is too long to be written. -/
  | unwritableInteger

namespace LoadFault

/-- Faults of the grammar, as opposed to scalars without a value. -/
def isMalformed : LoadFault → Bool
  | .json (.malformed _ _ _ _) => true
  | .json (.integer _) => false
  | .yaml .malformed => true
  | .yaml _ => false

/-- The report of a text that does not load. -/
def message? (fault : LoadFault) : Option Text :=
  let detail? :=
    match fault with
    | .json fault => some fault.message
    | .yaml fault => fault.message?
  if fault.isMalformed then
    detail?.map fun detail => "Specification is neither valid JSON nor YAML: " ++ detail
  else detail?

end LoadFault

namespace Rejection

/-- Rejections that tell what is wrong with the specification.  The others are faults of single
scalars. -/
def isExplained : Rejection → Bool
  | .notLoaded fault => fault.isMalformed
  | .unwritableInteger => false
  | _ => true

/-- The data that a rejection is about can be shown: no integer in it is too long to be written. -/
def isTellable : Rejection → Bool
  | .mismatch swagger openApi =>
      (swagger ++ openApi).all fun issue =>
        issue.content.integers.all fun value => decide (value.natAbs < Shape.unwritableMagnitude)
  | _ => true

def message? : Rejection → Option Text
  | .notUnicode fault => some ("Specification is not valid UTF-8: " ++ fault.message)
  | .notLoaded fault => fault.message?
  | .rootNotMapping kind => some ("Specification root must be a mapping, got " ++ kind)
  | .mismatch _ _ =>
      some "Specification matches neither the Swagger 2.0 nor the OpenAPI 3.0 document shape"
  | .unwritableInteger =>
      some ("Exceeds the limit (4300 digits) for integer string conversion; "
        ++ "use sys.set_int_max_str_digits() to increase the limit")

end Rejection

/-- The data of a text, where sets yield their members in the given order. -/
def loadText (order : Yaml.SetOrder) (text : Text) : Except LoadFault Data :=
  if (text.dropWhile CodePoint.isBlank).head? = some (.scalar '\x7b') then
    (Json.load text).mapError .json
  else
    (Yaml.load order text).mapError .yaml

namespace Specification

def format : Specification → Format
  | .swagger _ => .swagger2
  | .openApi _ => .openApi3

/-- A reading that follows if the shape of a format does not fit. -/
def attempt (format : Format) (checked : Shape.Checked Specification)
    (otherwise : List Shape.Issue → Logged Rejection Specification) :
    Logged Rejection Specification :=
  match checked with
  | .valid specification => do
      Logged.report (.recognised format)
      return specification
  | .unwritable => Logged.fail .unwritableInteger
  | .invalid issues => do
      Logged.report (.mismatch format issues.length)
      otherwise issues

/-- The specification at the root of a document. -/
def ofRoot [Shape.View Place] (root : Place) : Logged Rejection Specification :=
  attempt .swagger2 (Specification.swagger <$> Swagger.readDocument root) fun swagger =>
    attempt .openApi3 (Specification.openApi <$> OpenApi.readDocument root) fun openApi =>
      Logged.fail (.mismatch swagger openApi)

def ofData (data : Data) : Logged Rejection Specification :=
  match data with
  | .mapping _ => if data.isTree then ofRoot data else ofRoot (Shape.Cursor.root data)
  | _ => Logged.fail (.rootNotMapping data.kindName)

/-- The specification that a text stands for. -/
def ofText (order : Yaml.SetOrder) (text : Text) : Logged Rejection Specification :=
  match loadText order text with
  | .ok data => ofData data
  | .error fault => Logged.fail (.notLoaded fault)

/-- The specification that octets stand for, with or without a byte order mark. -/
def ofBytes (order : Yaml.SetOrder) (bytes : Bytes) : Logged Rejection Specification :=
  match bytes.withoutMark.decode with
  | .ok text => ofText order text
  | .error fault => Logged.fail (.notUnicode fault)

end Specification

end ApiTypes
