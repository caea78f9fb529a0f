/-!
# Numbers of double precision

A finite number is a sign and `mantissa * 2 ^ exponent` in the one form that the
64-bit encoding allows.  Every operation computes the exact result with natural
numbers and then rounds once, to the nearest number and from the midpoint of two
neighbours to the one with the even mantissa.
-/

namespace ApiTypes

/-- The mantissa fills 53 bits unless the exponent is the least one. -/
def IsCanonicalDouble (mantissa : Nat) (exponent : Int) : Prop :=
  mantissa < Nat.pow 2 53 ∧ -1074 ≤ exponent ∧ exponent ≤ 971 ∧
    (Nat.pow 2 52 ≤ mantissa ∨ exponent = -1074)

instance (mantissa : Nat) (exponent : Int) : Decidable (IsCanonicalDouble mantissa exponent) :=
  inferInstanceAs (Decidable (_ ∧ _ ∧ _ ∧ _))

/-- A binary floating-point number of 64 bits. -/
inductive Double where
  | finite (negative : Bool) (mantissa : Nat) (exponent : Int)
      (canonical : IsCanonicalDouble mantissa exponent)
  | infinite (negative : Bool)
  | notANumber
  deriving DecidableEq

namespace Double

def signedZero (negative : Bool) : Double :=
  .finite negative 0 (-1074) (by decide)

instance : Inhabited Double := ⟨signedZero false⟩

/-- The quotient rounded to the nearest natural number, from a midpoint to the even one. -/
def roundedQuotient (numerator denominator : Nat) : Nat :=
  let quotient := numerator / denominator
  let twice := 2 * (numerator % denominator)
  if twice < denominator then quotient
  else if denominator < twice then quotient + 1
  else quotient + quotient % 2

/-- The greatest power of two that a positive ratio reaches. -/
def binaryMagnitude (numerator denominator : Nat) : Int :=
  let estimate : Int := (numerator.log2 : Int) - denominator.log2
  if denominator * Nat.pow 2 estimate.toNat ≤ numerator * Nat.pow 2 (-estimate).toNat then
    estimate
  else estimate - 1

/-- The number with the given mantissa and exponent, where the mantissa may have been rounded
up to 54 bits; an exponent that is too great gives infinity. -/
def ofMantissa (negative : Bool) (mantissa : Nat) (exponent : Int) : Double :=
  if canonical : IsCanonicalDouble mantissa exponent then
    .finite negative mantissa exponent canonical
  else if carried : IsCanonicalDouble (mantissa / 2) (exponent + 1) then
    .finite negative (mantissa / 2) (exponent + 1) carried
  else
    .infinite negative

/-- The number nearest to a ratio with a positive denominator. -/
def nearest (negative : Bool) (numerator denominator : Nat) : Double :=
  if numerator = 0 then signedZero negative
  else
    let exponent := max (binaryMagnitude numerator denominator - 52) (-1074)
    ofMantissa negative
      (roundedQuotient (numerator * Nat.pow 2 (-exponent).toNat)
        (denominator * Nat.pow 2 exponent.toNat))
      exponent

/-- The number nearest to an integer, infinite beyond the range of finite numbers. -/
def nearestInt (value : Int) : Double :=
  nearest (value < 0) value.natAbs 1

/-- The finite number nearest to an integer, if rounding does not leave their range. -/
def ofInt? (value : Int) : Option Double :=
  match nearestInt value with
  | .infinite _ => none
  | number => some number

/-- The number nearest to `digits * 10 ^ power`.  Powers at which every rounding is zero or
infinite are not computed. -/
def nearestDecimal (negative : Bool) (digits : Nat) (power : Int) : Double :=
  let magnitude : Int := (Nat.toDigits 10 digits).length + power
  if digits = 0 ∨ magnitude < -330 then signedZero negative
  else if 330 < magnitude then .infinite negative
  else nearest negative (digits * Nat.pow 10 power.toNat) (Nat.pow 10 (-power).toNat)

/-- The sign bit, which is clear for what is not a number. -/
def isNegative : Double → Bool
  | .finite negative _ _ _ => negative
  | .infinite negative => negative
  | .notANumber => false

def negated : Double → Double
  | .finite negative mantissa exponent canonical => .finite (!negative) mantissa exponent canonical
  | .infinite negative => .infinite (!negative)
  | .notANumber => .notANumber

def signed (negative : Bool) (magnitude : Nat) : Int :=
  if negative then -(magnitude : Int) else magnitude

/-- The integer that a number is, if it is one. -/
def toInt? : Double → Option Int
  | .finite negative mantissa exponent _ =>
      let divisor := Nat.pow 2 (-exponent).toNat
      if mantissa % divisor = 0 then
        some (signed negative (mantissa / divisor * Nat.pow 2 exponent.toNat))
      else none
  | _ => none

/-- The number nearest to `value * 2 ^ exponent`; the sign of zero is given. -/
def nearestScaled (zeroNegative : Bool) (value exponent : Int) : Double :=
  if value = 0 then signedZero zeroNegative
  else
    nearest (value < 0) (value.natAbs * Nat.pow 2 exponent.toNat) (Nat.pow 2 (-exponent).toNat)

def add : Double → Double → Double
  | .finite leftNegative leftMantissa leftExponent _,
    .finite rightNegative rightMantissa rightExponent _ =>
      let exponent := min leftExponent rightExponent
      let left := signed leftNegative (leftMantissa * Nat.pow 2 (leftExponent - exponent).toNat)
      let right := signed rightNegative (rightMantissa * Nat.pow 2 (rightExponent - exponent).toNat)
      nearestScaled (leftNegative && rightNegative) (left + right) exponent
  | .notANumber, _ => .notANumber
  | _, .notANumber => .notANumber
  | .infinite leftNegative, .infinite rightNegative =>
      if leftNegative = rightNegative then .infinite leftNegative else .notANumber
  | .infinite negative, _ => .infinite negative
  | _, .infinite negative => .infinite negative

def isZero : Double → Bool
  | .finite _ mantissa _ _ => mantissa == 0
  | _ => false

def multiply : Double → Double → Double
  | .finite leftNegative leftMantissa leftExponent _,
    .finite rightNegative rightMantissa rightExponent _ =>
      let negative := leftNegative != rightNegative
      nearestScaled negative (signed negative (leftMantissa * rightMantissa))
        (leftExponent + rightExponent)
  | .notANumber, _ => .notANumber
  | _, .notANumber => .notANumber
  | left, right =>
      if left.isZero || right.isZero then .notANumber
      else .infinite (left.isNegative != right.isNegative)

end Double

end ApiTypes
