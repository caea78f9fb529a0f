import ApiTypes.Double
import ApiTypes.Text

/-!
# Texts of numbers

The text of a finite number has the fewest decimal digits that read back as the
number and, among those, the digits nearest to it.  It is positional from the
fourth place after the point up to the sixteenth digit before it, and keeps a
zero after the point; beyond, it has an exponent with a sign and at least two
digits.
-/

namespace ApiTypes

/-- `digits * 10 ^ power`. -/
structure Decimal where
  digits : Nat
  power : Int
  deriving DecidableEq

namespace Decimal

/-- The number of decimal digits, none for zero. -/
def digitCount (number : Nat) : Nat :=
  if number = 0 then 0 else (Nat.toDigits 10 number).length

/-- For a positive ratio, the number of digits before the decimal point or, below one tenth,
the negated number of zeros after it. -/
def pointOfRatio (numerator denominator : Nat) : Int :=
  if denominator ≤ numerator then digitCount (numerator / denominator)
  else 1 - (digitCount ((denominator - 1) / numerator) : Int)

def toDouble (decimal : Decimal) : Double :=
  Double.nearestDecimal false decimal.digits decimal.power

/-- Of the two decimals around a ratio with the given power of ten, those that read back as
the number; of two, the nearer, and at equal distance the one with the even digit. -/
def readingBack? (number : Double) (numerator denominator : Nat) (power : Int) :
    Option Decimal :=
  let scaledNumerator := numerator * Nat.pow 10 (-power).toNat
  let scaledDenominator := denominator * Nat.pow 10 power.toNat
  let below : Decimal := { digits := scaledNumerator / scaledDenominator, power }
  let above : Decimal := { digits := below.digits + 1, power }
  let nearer : Decimal :=
    { digits := Double.roundedQuotient scaledNumerator scaledDenominator, power }
  if below.toDouble = number then
    some (if above.toDouble = number then nearer else below)
  else if above.toDouble = number then some above
  else none

/-- The first decimal that reads back, as the number of digits grows by at most `more`. -/
def shortestFrom (number : Double) (numerator denominator : Nat) (power : Int) :
    (more : Nat) → Option Decimal
  | 0 => none
  | more + 1 =>
      match readingBack? number numerator denominator power with
      | some decimal => some decimal
      | none => shortestFrom number numerator denominator (power - 1) more

/-- A decimal without zeros at the end of its digits. -/
def withoutTrailingZeros (decimal : Decimal) : (fuel : Nat) → Decimal
  | 0 => decimal
  | fuel + 1 =>
      if decimal.digits ≠ 0 ∧ decimal.digits % 10 = 0 then
        withoutTrailingZeros { digits := decimal.digits / 10, power := decimal.power + 1 } fuel
      else decimal

/-- The shortest decimal that reads back as `mantissa * 2 ^ exponent`. -/
def shortest (mantissa : Nat) (exponent : Int) (canonical : IsCanonicalDouble mantissa exponent) :
    Decimal :=
  if mantissa = 0 then { digits := 0, power := 0 }
  else
    let numerator := mantissa * Nat.pow 2 exponent.toNat
    let denominator := Nat.pow 2 (-exponent).toNat
    let power := pointOfRatio numerator denominator - 1
    let found := shortestFrom (.finite false mantissa exponent canonical) numerator denominator
      power 17
    let exact : Decimal :=
      { digits := numerator * Nat.pow 5 (-exponent).toNat, power := min exponent 0 }
    withoutTrailingZeros (found.getD exact) 400

/-- How many digits stand before the decimal point in positional notation. -/
def point (decimal : Decimal) : Int :=
  (Nat.toDigits 10 decimal.digits).length + decimal.power

/-- Digits with a decimal point among them, before them or behind them. -/
def positional (decimal : Decimal) : Text :=
  let digits := Nat.toDigits 10 decimal.digits
  let point := decimal.point
  Text.ofChars <|
    if point ≤ 0 then
      ['0', '.'] ++ List.replicate (-point).toNat '0' ++ digits
    else if point < digits.length then
      digits.take point.toNat ++ '.' :: digits.drop point.toNat
    else
      digits ++ List.replicate decimal.power.toNat '0' ++ ['.', '0']

/-- One digit, the others after a point, and the exponent. -/
def scientific (decimal : Decimal) : Text :=
  let exponent := decimal.point - 1
  let mantissa : List Char :=
    match Nat.toDigits 10 decimal.digits with
    | [] => []
    | [digit] => [digit]
    | digit :: digits => digit :: '.' :: digits
  Text.ofChars mantissa ++ (if exponent < 0 then "e-" else "e+")
    ++ Text.padded 2 exponent.natAbs

/-- Positional or scientific notation, by the place of the point. -/
def text (decimal : Decimal) : Text :=
  if decimal.digits = 0 then "0.0"
  else if -4 < decimal.point ∧ decimal.point ≤ 16 then decimal.positional
  else decimal.scientific

end Decimal

namespace Double

def text : Double → Text
  | .finite negative mantissa exponent canonical =>
      (if negative then "-" else "") ++ (Decimal.shortest mantissa exponent canonical).text
  | .infinite negative => if negative then "-inf" else "inf"
  | .notANumber => "nan"

/-- The value of a list of decimal digits before and after the point, with an exponent. -/
def ofNumeral (negative : Bool) (whole fraction : List Nat) (exponent : Int) : Double :=
  nearestDecimal negative (Text.valueOfDigits 10 (whole ++ fraction)) (exponent - fraction.length)

end Double

end ApiTypes
