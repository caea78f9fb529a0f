import ApiTypes.Double.Text
import ApiTypes.Text.Blank
import ApiTypes.Text.Digit
import ApiTypes.Text.Quoted

/-!
# Numerals

Readers for the numerals of integers and of numbers of double precision.  A
numeral of a double has digits before or after an optional point and may have an
exponent; infinity and what is not a number are spelled in letters of either
case.
-/

namespace ApiTypes

namespace Text

/-- A sign at the beginning of a text, and what follows it. -/
def splitSign : Text → Bool × Text
  | .scalar '-' :: rest => (true, rest)
  | .scalar '+' :: rest => (false, rest)
  | text => (false, text)

/-- The digits at the beginning of a text, as values, and what follows them. -/
def splitDigits (text : Text) : List Nat × Text :=
  ((text.takeWhile CodePoint.isDigit).map fun point => point.toNat - 0x30,
    text.dropWhile CodePoint.isDigit)

/-- The exponent that is the whole of a text; no text is the exponent zero. -/
def exponent? : Text → Option Int
  | [] => some 0
  | mark :: rest =>
      if mark = .scalar 'e' ∨ mark = .scalar 'E' then
        let (negative, rest) := splitSign rest
        match splitDigits rest with
        | ([], _) => none
        | (digits, []) => some (Double.signed negative (valueOfDigits 10 digits))
        | _ => none
      else none

end Text

namespace Double

/-- The number that an unsigned numeral stands for. -/
def ofUnsigned? (negative : Bool) (numeral : Text) : Option Double :=
  let letters := numeral.toAsciiLower
  if letters = "inf" ∨ letters = "infinity" then some (.infinite negative)
  else if letters = "nan" then some .notANumber
  else
    let (whole, rest) := Text.splitDigits numeral
    let (fraction, rest) :=
      match rest with
      | .scalar '.' :: rest => Text.splitDigits rest
      | _ => ([], rest)
    if whole.isEmpty && fraction.isEmpty then none
    else
      (Text.exponent? rest).map fun exponent => ofNumeral negative whole fraction exponent

/-- The number that a numeral without blanks around it stands for. -/
def ofText? (numeral : Text) : Option Double :=
  let (negative, rest) := Text.splitSign numeral
  ofUnsigned? negative rest

end Double

/-- Why a text is no numeral of an integer. -/
inductive IntegerError where
  | notANumeral (base : Nat) (content : Text)
  | tooLong (digits : Nat)
  deriving DecidableEq

namespace IntegerError

/-- The report of a text that is no numeral. -/
def message : IntegerError → Text
  | .notANumeral base content =>
      "invalid literal for int() with base " ++ Text.ofNat base ++ ": " ++ content.quoted.take 200
  | .tooLong digits =>
      "Exceeds the limit (4300 digits) for integer string conversion: value has "
        ++ Text.ofNat digits
        ++ " digits; use sys.set_int_max_str_digits() to increase the limit"

end IntegerError

namespace Text

/-- The greatest number of digits that a decimal numeral may have. -/
def longestInteger : Nat := 4300

/-- The value of a digit of a base up to sixteen. -/
def digitOfBase? (base : Nat) (point : CodePoint) : Option Nat :=
  (point.decimalValue? <|> point.hexValue?).bind fun value =>
    if value < base then some value else none

/-- A text after the letter that may announce a base of two, eight or sixteen. -/
def withoutBaseMark (base : Nat) : Text → Text
  | .scalar '0' :: letter :: rest =>
      let mark : Option Char :=
        if base = 2 then some 'b' else if base = 8 then some 'o'
        else if base = 16 then some 'x' else none
      match mark with
      | some mark =>
          if letter.toAsciiLower = .scalar mark then rest
          else .scalar '0' :: letter :: rest
      | none => .scalar '0' :: letter :: rest
  | text => text

/-- The integer that a numeral stands for, with blanks and a sign before its digits.  Decimal
numerals have a greatest length. -/
def toInteger (base : Nat) (content : Text) : Except IntegerError Int :=
  let (negative, rest) := splitSign (content.trim CodePoint.isWhiteSpace)
  let digits := (withoutBaseMark base rest).map (digitOfBase? base)
  if digits.isEmpty || digits.any Option.isNone then .error (.notANumeral base content)
  else if base = 10 ∧ longestInteger < digits.length then .error (.tooLong digits.length)
  else .ok (Double.signed negative (valueOfDigits base (digits.filterMap id)))

end Text

end ApiTypes
