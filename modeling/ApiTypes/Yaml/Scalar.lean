import ApiTypes.Text.Lowercase
import ApiTypes.Yaml.Tag

/-!
# Values of YAML scalars

The value of a scalar is its content read in the way of its tag.
-/

namespace ApiTypes.Yaml

/-- A scalar of a document and the number of the node that it comes from.  The word for what is
no number spells the same scalar wherever it stands, which comes from no node. -/
structure Scalar where
  data : Data
  origin : Option Nat

namespace Scalar

/-- Two scalars are one key when they are the same scalar or have equal data. -/
def sameKey (left right : Scalar) : Bool :=
  left.origin == right.origin || Data.sameKey left.data right.data

/-- The truth value that a word names in any mixture of small and capital letters. -/
def boolean (content : Text) : Except Fault Data :=
  let word := content.toLower
  match Tag.booleanWords.lookup word with
  | some value => .ok (.boolean value)
  | none => .error (.notABoolean word)

/-- A number without underscores, split into its sign and the rest. -/
def signedNumber (content : Text) : Except Fault (Bool × Text) :=
  let digits := content.filter (· != .scalar '_')
  if digits.isEmpty then .error .emptyNumber else .ok (Text.splitSign digits)

def applySign (negative : Bool) (value : Int) : Int :=
  if negative then -value else value

/-- The integer that places to base sixty spell. -/
def sexagesimalInteger (places : List Text) : Except IntegerError Int := do
  let values ← places.mapM (Text.toInteger 10)
  return values.foldl (fun total value => total * 60 + value) 0

/-- The integer that an unsigned number spells: binary, hexadecimal, octal, to base sixty or
decimal. -/
def unsignedInteger (content : Text) : Except IntegerError Int :=
  if content = [.scalar '0'] then .ok 0
  else
    match content with
    | .scalar '0' :: .scalar 'b' :: rest => Text.toInteger 2 rest
    | .scalar '0' :: .scalar 'x' :: rest => Text.toInteger 16 rest
    | .scalar '0' :: _ => Text.toInteger 8 content
    | _ =>
        match Text.splitOn (.scalar ':') content with
        | [_] => Text.toInteger 10 content
        | places => sexagesimalInteger places

def integer (content : Text) : Except Fault Data := do
  let (negative, unsigned) ← signedNumber content
  if unsigned.isEmpty then throw .emptyNumber
  match unsignedInteger unsigned with
  | .ok value => return .integer (applySign negative value)
  | .error error => throw (.integer error)

/-- A text with the digits of all scripts as digits of ASCII, and without blanks around it. -/
def plainNumeral (content : Text) : Text :=
  (content.trim CodePoint.isWhiteSpace).map fun point =>
    match point.decimalValue? with
    | some value => CodePoint.ofNat (0x30 + value)
    | none => point

/-- The number that a numeral stands for. -/
def double (content : Text) : Except Fault Double :=
  match Double.ofText? (plainNumeral content) with
  | some number => .ok number
  | none => .error (.notADouble content)

/-- The sum of places to base sixty, the last one first. -/
def sexagesimalSum (total : Double) (weight : Nat) : List Double → Except Fault Double
  | [] => .ok total
  | place :: places =>
      match Double.ofInt? weight with
      | none => .error .placeTooLarge
      | some factor => sexagesimalSum (total.add (place.multiply factor)) (weight * 60) places

/-- The number that an unsigned content spells. -/
def unsignedFloat (content : Text) : Except Fault Double :=
  if content = Text.ofString ".inf" then .ok (.infinite false)
  else if content = Text.ofString ".nan" then .ok .notANumber
  else
    match Text.splitOn (.scalar ':') content with
    | [_] => double content
    | places => do
        let values ← places.mapM double
        sexagesimalSum (Double.signedZero false) 1 values.reverse

def float (content : Text) : Except Fault Data := do
  let (negative, unsigned) ← signedNumber content
  let number ← unsignedFloat unsigned.toLower
  return .float (if negative then number.negated else number)

/-- The value of a digit to base sixty-four. -/
def base64Value? (point : CodePoint) : Option Nat :=
  let number := point.toNat
  if 0x41 ≤ number ∧ number ≤ 0x5A then some (number - 0x41)
  else if 0x61 ≤ number ∧ number ≤ 0x7A then some (number - 0x61 + 26)
  else if 0x30 ≤ number ∧ number ≤ 0x39 then some (number - 0x30 + 52)
  else if point = .scalar '+' then some 62
  else if point = .scalar '/' then some 63
  else none

/-- Octets from digits to base sixty-four, four of which make three octets.  What is no digit is
passed over; the padding that completes four digits ends the octets.  `held` is the last digit,
of which some bits are still to be used. -/
def base64From (place held pads : Nat) (reversed : Bytes) : Text → Except Fault Bytes
  | [] => if place = 0 then .ok reversed.reverse else .error .malformed
  | point :: rest =>
      if point = .scalar '=' then
        if 2 ≤ place then
          if 4 ≤ place + (pads + 1) then .ok reversed.reverse
          else base64From place held (pads + 1) reversed rest
        else base64From place held pads reversed rest
      else
        match base64Value? point with
        | none => base64From place held pads reversed rest
        | some value =>
            match place with
            | 0 => base64From 1 value 0 reversed rest
            | 1 =>
                base64From 2 (value % 16) 0 (UInt8.ofNat (held * 4 + value / 16) :: reversed) rest
            | 2 =>
                base64From 3 (value % 4) 0 (UInt8.ofNat (held * 16 + value / 4) :: reversed) rest
            | _ => base64From 0 0 0 (UInt8.ofNat (held * 64 + value) :: reversed) rest

/-- The octets that a content in base sixty-four spells; it has to be in ASCII. -/
def binary (content : Text) : Except Fault Data := do
  if content.all (·.toNat < 0x80) then
    return .bytes (← base64From 0 0 0 [] content)
  else throw .malformed

/-- The day or time that a content spells. -/
def timestamp (content : Text) : Except Fault Data :=
  match Timestamp.ofText? (Text.withoutLineFeed content) with
  | none => .error .notATimestamp
  | some timestamp =>
      match timestamp.toData with
      | .ok value => .ok value
      | .error error => .error (.calendar error)

/-- The value of a scalar; tags of collections and unknown tags have none. -/
def value (tag : Tag) (content : Text) : Except Fault Data :=
  match tag with
  | .null => .ok .null
  | .boolean => boolean content
  | .integer => integer content
  | .float => float content
  | .binary => binary content
  | .timestamp => timestamp content
  | .text => .ok (.text content)
  | _ => .error .malformed

/-- The word for what is no number, in any mixture of small and capital letters; a sign and
underscores do not matter. -/
def isNotANumber (content : Text) : Bool :=
  let digits := content.filter (· != .scalar '_')
  (Text.splitSign digits).2.toLower == Text.ofString ".nan"

/-- The scalar that the node with a number stands for. -/
def ofContent (number : Nat) (tag : Tag) (content : Text) : Except Fault Scalar := do
  let data ← value tag content
  return { data, origin := if tag = .float && isNotANumber content then none else some number }

end Scalar

end ApiTypes.Yaml
