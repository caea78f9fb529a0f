import ApiTypes.Yaml.Timestamp

/-!
# Tags of YAML nodes

The tags of version 1.1 that have a meaning, and the tag that the form of a plain
scalar gives to it.
-/

namespace ApiTypes.Yaml

/-- What kind of value a node stands for. -/
inductive Tag where
  | null
  | boolean
  | integer
  | float
  | binary
  | timestamp
  | text
  | sequence
  | mapping
  | set
  | orderedMap
  | pairs
  | merge
  | defaultValue
  | unknown
  deriving DecidableEq

namespace Tag

/-- The beginning of the tags that have a meaning. -/
def standard : Text := "tag:yaml.org,2002:"

/-- The names of the tags that have a meaning. -/
def names : List (Text × Tag) :=
  [("null", .null), ("bool", .boolean), ("int", .integer), ("float", .float),
    ("binary", .binary), ("timestamp", .timestamp), ("str", .text), ("seq", .sequence),
    ("map", .mapping), ("set", .set), ("omap", .orderedMap), ("pairs", .pairs),
    ("merge", .merge), ("value", .defaultValue)]

/-- The tag with a given full name. -/
def ofName (name : Text) : Tag :=
  ((name.after? standard).bind fun short => names.lookup short).getD .unknown

/-! ## Forms of plain scalars -/

/-- A digit or an underscore. -/
def isDigitOrUnderscore (point : CodePoint) : Bool :=
  point.isDigit || point == .scalar '_'

def isDigits : Text → Bool
  | [] => false
  | first :: rest => first.isDigit && rest.all isDigitOrUnderscore

/-- A digit other than zero, then digits and underscores. -/
def isCount : Text → Bool
  | [] => false
  | first :: rest => first.isDigit && first != .scalar '0' && rest.all isDigitOrUnderscore

def isAllOf (isMember : CodePoint → Bool) (text : Text) : Bool :=
  !text.isEmpty && text.all isMember

/-- One digit, or two of which the first is at most five. -/
def isSexagesimalPlace : Text → Bool
  | [unit] => unit.isDigit
  | [ten, unit] => ten.isOneOf "012345" && unit.isDigit
  | _ => false

/-- Places to base sixty after the first one, at least one of them. -/
def areSexagesimalPlaces (places : List Text) : Bool :=
  !places.isEmpty && places.all isSexagesimalPlace

/-- The form of an integer: binary, octal, decimal, hexadecimal or to base sixty. -/
def isInteger (text : Text) : Bool :=
  let unsigned := (Text.splitSign text).2
  match unsigned with
  | .scalar '0' :: .scalar 'b' :: rest => isAllOf (·.isOneOf "01_") rest
  | .scalar '0' :: .scalar 'x' :: rest =>
      isAllOf (fun point => point.hexValue?.isSome || point == .scalar '_') rest
  | .scalar '0' :: rest => rest.all (·.isOneOf "01234567_")
  | _ =>
      match Text.splitOn (.scalar ':') unsigned with
      | [whole] => isCount whole
      | whole :: places => isCount whole && areSexagesimalPlaces places
      | [] => false

/-- No exponent, or one with a sign. -/
def isSignedExponent : Text → Bool
  | [] => true
  | mark :: sign :: digits =>
      mark.isOneOf "eE" && sign.isOneOf "+-" && isAllOf CodePoint.isDigit digits
  | _ => false

/-- The form of a number with a fraction: with a point, to base sixty with a point, infinite or
not a number. -/
def isFloat (text : Text) : Bool :=
  let unsigned := (Text.splitSign text).2
  let isAmong (texts : List Text) (text : Text) : Bool := texts.contains text
  if isAmong [".inf", ".Inf", ".INF"] unsigned || isAmong [".nan", ".NaN", ".NAN"] text then true
  else
    match text with
    | .scalar '.' :: rest =>
        isDigits (rest.takeWhile isDigitOrUnderscore) &&
          isSignedExponent (rest.dropWhile isDigitOrUnderscore)
    | _ =>
        let whole := unsigned.takeWhile (· != .scalar '.')
        match unsigned.dropWhile (· != .scalar '.') with
        | [] => false
        | _ :: fraction =>
            match Text.splitOn (.scalar ':') whole with
            | [whole] =>
                isDigits whole && isSignedExponent (fraction.dropWhile isDigitOrUnderscore)
            | whole :: places =>
                isDigits whole && areSexagesimalPlaces places && fraction.all isDigitOrUnderscore
            | [] => false

/-- The words for truth values, each in three spellings. -/
def booleanWords : List (Text × Bool) :=
  [("yes", true), ("Yes", true), ("YES", true), ("no", false), ("No", false), ("NO", false),
    ("true", true), ("True", true), ("TRUE", true), ("false", false), ("False", false),
    ("FALSE", false), ("on", true), ("On", true), ("ON", true), ("off", false), ("Off", false),
    ("OFF", false)]

def nullWords : List Text :=
  ["~", "null", "Null", "NULL", ""]

/-- Indicators that are kept for the language itself and so spell no value. -/
def indicators : List Text :=
  ["!", "&", "*"]

/-- A text without one line feed at its end, unless nothing else is there. -/
def formOf (text : Text) : Text :=
  if (Text.withoutLineFeed text).isEmpty then text else Text.withoutLineFeed text

/-- The tag that the form of a scalar gives to it. -/
def ofPlain (content : Text) : Tag :=
  let form := formOf content
  if nullWords.contains form then .null
  else if (booleanWords.lookup form).isSome then .boolean
  else if isFloat form then .float
  else if isInteger form then .integer
  else if form == Text.ofString "<<" then .merge
  else if form == Text.ofString "=" then .defaultValue
  else if indicators.contains form then .unknown
  else if (Timestamp.ofText? form).any Timestamp.isPlain then .timestamp
  else .text

end Tag

end ApiTypes.Yaml
