import ApiTypes.Literal.OfData
import ApiTypes.Proofs.IntegerRange
import ApiTypes.Proofs.JsonIntegers
import Mathlib.Algebra.Order.Group.Unbundled.Int
import Mathlib.Tactic.Ring

/-!
# Rounded integers

The integers that numbers of double precision can be, if their size had no bound, are those
with at most 53 binary digits and zeros behind them.  Every integer has a nearest one among
these, where of two that are equally near the one that more powers of two divide is meant.
The literal of an integer is the numeral of this one.
-/

namespace ApiTypes.Double

/-- An integer with at most 53 binary digits and zeros behind them. -/
def IsShort (value : Int) : Prop :=
  ∃ (mantissa : Int) (exponent : Nat), mantissa.natAbs < 2 ^ 53 ∧ value = mantissa * 2 ^ exponent

/-- The nearest of the short integers; of two that are equally near, a power of two divides this one
and not the other. -/
structure RoundsTo (value rounded : Int) : Prop where
  isShort : IsShort rounded
  nearest {other : Int} : IsShort other → (value - rounded).natAbs ≤ (value - other).natAbs
  even {other : Int} : IsShort other → other ≠ rounded →
    (value - other).natAbs = (value - rounded).natAbs →
    ∃ power, (2 ^ power : Int) ∣ rounded ∧ ¬ (2 ^ power : Int) ∣ other

/-! ## What follows from nearness -/

theorem RoundsTo.unique {value rounded other : Int} (rounds : RoundsTo value rounded)
    (otherRounds : RoundsTo value other) : other = rounded := by
  by_contra differs
  have near := rounds.nearest otherRounds.isShort
  have otherNear := otherRounds.nearest rounds.isShort
  obtain ⟨power, divides, notOther⟩ := rounds.even otherRounds.isShort differs (by omega)
  obtain ⟨otherPower, otherDivides, not⟩ :=
    otherRounds.even rounds.isShort (Ne.symm differs) (by omega)
  -- The smaller one of the two powers divides what the greater one divides.
  rcases Nat.le_total power otherPower with smaller | smaller
  · exact notOther ((pow_dvd_pow 2 smaller).trans otherDivides)
  · exact not ((pow_dvd_pow 2 smaller).trans divides)

theorem roundsTo_self {value : Int} (isShort : IsShort value) : RoundsTo value value where
  isShort := isShort
  nearest _ := by simp
  even _ differs near := by omega

theorem RoundsTo.mono {value other rounded otherRounded : Int} (le : value ≤ other)
    (rounds : RoundsTo value rounded) (otherRounds : RoundsTo other otherRounded) :
    rounded ≤ otherRounded := by
  by_contra above
  have near := rounds.nearest otherRounds.isShort
  have otherNear := otherRounds.nearest rounds.isShort
  -- Both lie in the middle between the two, and so are one.
  obtain rfl : value = other := by omega
  have same := rounds.unique otherRounds
  omega

theorem IsShort.neg {value : Int} (isShort : IsShort value) : IsShort (-value) := by
  obtain ⟨mantissa, exponent, small, rfl⟩ := isShort
  exact ⟨-mantissa, exponent, by simpa using small, by ring⟩

theorem RoundsTo.neg {value rounded : Int} (rounds : RoundsTo value rounded) :
    RoundsTo (-value) (-rounded) where
  isShort := rounds.isShort.neg
  nearest {other} isShort := by
    have near := rounds.nearest isShort.neg
    omega
  even {other} isShort differs near := by
    obtain ⟨power, divides, notOther⟩ :=
      rounds.even isShort.neg (by omega) (by omega)
    exact ⟨power, (Int.dvd_neg).mpr divides, fun other => notOther ((Int.dvd_neg).mpr other)⟩

theorem isShort_of_natAbs_le {value : Int} (small : value.natAbs ≤ 2 ^ 53) : IsShort value := by
  rcases Nat.lt_or_ge value.natAbs (2 ^ 53) with less | full
  · exact ⟨value, 0, less, by simp⟩
  · rcases Int.natAbs_eq value with sign | sign
    · exact ⟨1, 53, by decide, by omega⟩
    · exact ⟨-1, 53, by decide, by omega⟩

theorem IsShort.mul_pow {value : Int} (isShort : IsShort value) (power : Nat) :
    IsShort (value * 2 ^ power) := by
  obtain ⟨mantissa, exponent, small, rfl⟩ := isShort
  exact ⟨mantissa, exponent + power, small, by rw [pow_add, mul_assoc]⟩

/-! ## Rounding -/

/-- The natural number to which a natural number is rounded: a multiple of the power of two that
leaves 53 binary digits before it. -/
def roundedMagnitude (magnitude : Nat) : Nat :=
  roundedQuotient magnitude (2 ^ (magnitude.log2 - 52)) * 2 ^ (magnitude.log2 - 52)

/-- The short integer to which an integer is rounded. -/
def roundedInt (value : Int) : Int :=
  signed (value < 0) (roundedMagnitude value.natAbs)

/-- A rounded quotient is at most half a unit away, and exactly half a unit only if it is even. -/
theorem roundedQuotient_near (numerator : Nat) {unit : Nat} (positive : 0 < unit) :
    2 * ((numerator : Int) - roundedQuotient numerator unit * unit).natAbs ≤ unit ∧
      (2 * ((numerator : Int) - roundedQuotient numerator unit * unit).natAbs = unit →
        roundedQuotient numerator unit % 2 = 0) := by
  have whole := Nat.div_add_mod numerator unit
  have remainder := Nat.mod_lt numerator positive
  have parity := Nat.mod_two_eq_zero_or_one (numerator / unit)
  unfold roundedQuotient
  dsimp only
  generalize numerator / unit = quotient at *
  generalize numerator % unit = rest at *
  have product : (numerator : Int) = quotient * unit + rest := by
    rw [← whole]
    push_cast
    ring
  have next : ((quotient + 1 : Nat) : Int) * unit = quotient * unit + unit := by
    push_cast
    ring
  split
  · rw [product]
    exact ⟨by omega, by omega⟩
  · split
    · rw [product, next]
      exact ⟨by omega, by omega⟩
    · rcases parity with even | odd
      · rw [even, Nat.add_zero, product]
        exact ⟨by omega, fun _ => even⟩
      · rw [odd, product, next]
        exact ⟨by omega, by omega⟩

/-- Of all multiples of the unit, the rounded quotient gives the nearest one; another one is as near
only if it is odd while the rounded quotient is even. -/
theorem roundedQuotient_nearest (numerator : Nat) {unit : Nat} (positive : 0 < unit)
    {other : Int} (differs : other ≠ roundedQuotient numerator unit) :
    ((numerator : Int) - roundedQuotient numerator unit * unit).natAbs ≤
        ((numerator : Int) - other * unit).natAbs ∧
      (((numerator : Int) - other * unit).natAbs =
          ((numerator : Int) - roundedQuotient numerator unit * unit).natAbs →
        roundedQuotient numerator unit % 2 = 0 ∧ other % 2 = 1) := by
  obtain ⟨near, even⟩ := roundedQuotient_near numerator positive
  generalize roundedQuotient numerator unit = quotient at *
  have apart : ((quotient - other : Int) * unit).natAbs =
      (quotient - other : Int).natAbs * unit := by
    rw [Int.natAbs_mul, Int.natAbs_natCast]
  have difference : (quotient - other : Int) * unit = quotient * unit - other * unit := sub_mul ..
  have atLeast : unit ≤ (quotient - other : Int).natAbs * unit :=
    Nat.le_mul_of_pos_left unit (by omega)
  constructor
  · omega
  · intro tie
    have halves : (quotient - other : Int).natAbs * unit = unit := by omega
    have neighbour : (quotient - other : Int).natAbs = 1 :=
      Nat.eq_of_mul_eq_mul_right positive (by omega)
    have isEven := even (by omega)
    exact ⟨isEven, by omega⟩

theorem roundedQuotient_le {magnitude : Nat} :
    roundedQuotient magnitude (2 ^ (magnitude.log2 - 52)) ≤ 2 ^ 53 := by
  rcases Nat.lt_or_ge magnitude.log2 52 with small | large
  · have scale : magnitude.log2 - 52 = 0 := by omega
    have whole : roundedQuotient magnitude 1 = magnitude := by
      simpa using roundedQuotient_mul_self magnitude Nat.one_pos
    have below := Nat.lt_log2_self (n := magnitude)
    have bound : 2 ^ (magnitude.log2 + 1) ≤ 2 ^ 53 := Nat.pow_le_pow_right Nat.two_pos (by omega)
    rw [scale, Nat.pow_zero, whole]
    omega
  · have positive : 0 < magnitude := by
      rcases Nat.eq_zero_or_pos magnitude with rfl | positive
      · simp at large
      · exact positive
    have bound := (integerMantissa_bounds positive).2
    rwa [integerMantissa, Nat.sub_eq_zero_of_le large, Nat.pow_zero, Nat.mul_one] at bound

theorem isShort_roundedMagnitude (magnitude : Nat) : IsShort (roundedMagnitude magnitude) := by
  have small : IsShort (roundedQuotient magnitude (2 ^ (magnitude.log2 - 52)) : Nat) :=
    isShort_of_natAbs_le (by simpa using roundedQuotient_le)
  have scaled := small.mul_pow (magnitude.log2 - 52)
  rw [roundedMagnitude]
  exact_mod_cast scaled

/-- A short integer is a multiple of the unit of a magnitude, or below all multiples that are full
mantissas. -/
theorem IsShort.cases {other : Int} (isShort : IsShort other) (magnitude : Nat) :
    (∃ factor : Int, other = factor * 2 ^ (magnitude.log2 - 52)) ∨
      other < 2 ^ 52 * 2 ^ (magnitude.log2 - 52) ∧
        2 ^ 52 * 2 ^ (magnitude.log2 - 52) ≤ magnitude := by
  obtain ⟨mantissa, exponent, small, rfl⟩ := isShort
  rcases Nat.lt_or_ge exponent (magnitude.log2 - 52) with below | multiple
  · right
    have log : magnitude.log2 = 52 + (magnitude.log2 - 52) := by omega
    have filled : 2 ^ magnitude.log2 ≤ magnitude := by
      apply Nat.log2_self_le
      rintro rfl
      simp at below
    rw [log, Nat.pow_add] at filled
    refine ⟨?_, filled⟩
    -- The mantissa of the other integer is short of the next power of two.
    have bound : mantissa.natAbs * 2 ^ exponent < 2 ^ 52 * 2 ^ (magnitude.log2 - 52) := by
      calc mantissa.natAbs * 2 ^ exponent
          < 2 ^ 53 * 2 ^ exponent := Nat.mul_lt_mul_of_pos_right small (Nat.two_pow_pos _)
        _ = 2 ^ 52 * 2 ^ (exponent + 1) := by rw [Nat.pow_succ' (n := exponent)]; omega
        _ ≤ 2 ^ 52 * 2 ^ (magnitude.log2 - 52) :=
            Nat.mul_le_mul_left _ (Nat.pow_le_pow_right Nat.two_pos below)
    have magnitudeEq : (mantissa * 2 ^ exponent).natAbs = mantissa.natAbs * 2 ^ exponent := by
      rw [Int.natAbs_mul, Int.natAbs_pow]
      rfl
    have least := Int.le_natAbs (a := mantissa * 2 ^ exponent)
    rw [magnitudeEq] at least
    exact_mod_cast Int.lt_of_le_of_lt least (Int.ofNat_lt.mpr bound)
  · left
    refine ⟨mantissa * 2 ^ (exponent - (magnitude.log2 - 52)), ?_⟩
    rw [mul_assoc, ← pow_add, Nat.sub_add_cancel multiple]

theorem roundedMagnitude_nearest (magnitude : Nat) {factor : Int}
    (differs : factor * 2 ^ (magnitude.log2 - 52) ≠ roundedMagnitude magnitude) :
    ((magnitude : Int) - roundedMagnitude magnitude).natAbs ≤
        ((magnitude : Int) - factor * 2 ^ (magnitude.log2 - 52)).natAbs ∧
      (((magnitude : Int) - factor * 2 ^ (magnitude.log2 - 52)).natAbs =
          ((magnitude : Int) - roundedMagnitude magnitude).natAbs →
        roundedQuotient magnitude (2 ^ (magnitude.log2 - 52)) % 2 = 0 ∧ factor % 2 = 1) := by
  have product : (roundedMagnitude magnitude : Int) =
      roundedQuotient magnitude (2 ^ (magnitude.log2 - 52)) * 2 ^ (magnitude.log2 - 52) := by
    rw [roundedMagnitude]
    push_cast
    rfl
  have differ : factor ≠ roundedQuotient magnitude (2 ^ (magnitude.log2 - 52)) := by
    rintro rfl
    exact differs product.symm
  have nearest := roundedQuotient_nearest magnitude (Nat.two_pow_pos (magnitude.log2 - 52)) differ
  rw [product]
  exact_mod_cast nearest

/-- Short integers that are no multiples of the unit are farther away. -/
theorem lt_of_full_mantissa {magnitude : Nat} {other : Int}
    (less : other < 2 ^ 52 * 2 ^ (magnitude.log2 - 52))
    (filled : 2 ^ 52 * 2 ^ (magnitude.log2 - 52) ≤ magnitude) :
    ((magnitude : Int) - roundedMagnitude magnitude).natAbs <
      ((magnitude : Int) - other).natAbs := by
  have between : ((magnitude : Int) - 2 ^ 52 * 2 ^ (magnitude.log2 - 52)).natAbs <
      ((magnitude : Int) - other).natAbs := by
    have filled : (2 ^ 52 * 2 ^ (magnitude.log2 - 52) : Int) ≤ magnitude := by exact_mod_cast filled
    generalize (2 ^ 52 * 2 ^ (magnitude.log2 - 52) : Int) = full at *
    omega
  by_cases same : (2 ^ 52 : Int) * 2 ^ (magnitude.log2 - 52) = roundedMagnitude magnitude
  · rwa [same] at between
  · exact Nat.lt_of_le_of_lt (roundedMagnitude_nearest magnitude same).1 between

theorem roundsTo_roundedMagnitude (magnitude : Nat) :
    RoundsTo magnitude (roundedMagnitude magnitude) where
  isShort := isShort_roundedMagnitude magnitude
  nearest {other} isShort := by
    by_cases same : other = roundedMagnitude magnitude
    · rw [same]
    · rcases isShort.cases magnitude with ⟨factor, rfl⟩ | ⟨less, filled⟩
      · exact (roundedMagnitude_nearest magnitude same).1
      · exact Nat.le_of_lt (lt_of_full_mantissa less filled)
  even {other} isShort differs tie := by
    rcases isShort.cases magnitude with ⟨factor, rfl⟩ | ⟨less, filled⟩
    · obtain ⟨even, odd⟩ := (roundedMagnitude_nearest magnitude differs).2 tie
      have unit : (2 ^ (magnitude.log2 - 52) : Int) ≠ 0 := pow_ne_zero _ two_ne_zero
      refine ⟨magnitude.log2 - 52 + 1, ?_, ?_⟩
      · rw [roundedMagnitude, pow_succ']
        push_cast
        exact mul_dvd_mul_right (by omega) _
      · rw [pow_succ', mul_dvd_mul_iff_right unit]
        omega
    · exact absurd tie (Nat.ne_of_gt (lt_of_full_mantissa less filled))

theorem roundsTo_roundedInt (value : Int) : RoundsTo value (roundedInt value) := by
  have magnitude := roundsTo_roundedMagnitude value.natAbs
  by_cases negative : value < 0
  · have opposite := magnitude.neg
    rw [Int.ofNat_natAbs_of_nonpos (Int.le_of_lt negative), Int.neg_neg] at opposite
    simpa only [roundedInt, signed, negative, decide_true, if_true] using opposite
  · rw [Int.natAbs_of_nonneg (Int.not_lt.mp negative)] at magnitude
    simpa only [roundedInt, signed, negative, decide_false, Bool.false_eq_true, if_false]
      using magnitude

theorem roundsTo_iff (value rounded : Int) :
    RoundsTo value rounded ↔ rounded = roundedInt value := by
  constructor
  · exact (roundsTo_roundedInt value).unique
  · rintro rfl
    exact roundsTo_roundedInt value

/-- The first integers that are not short are as near to two short ones. -/
example : roundedInt (2 ^ 53 + 1) = 2 ^ 53 ∧ roundedInt (2 ^ 53 + 3) = 2 ^ 53 + 4 := by
  decide

theorem roundedInt_of_isShort {value : Int} (isShort : IsShort value) :
    roundedInt value = value :=
  ((roundsTo_iff value value).mp (roundsTo_self isShort)).symm

/-! ## The nearest number of an integer -/

theorem toInt?_of_scaled (negative : Bool) {mantissa value : Nat} {exponent : Int}
    (canonical : IsCanonicalDouble mantissa exponent)
    (scaled : mantissa * 2 ^ exponent.toNat = value * 2 ^ (-exponent).toNat) :
    (Double.finite negative mantissa exponent canonical).toInt? = some (signed negative value) := by
  rcases Int.le_total 0 exponent with whole | fraction
  · have noDivisor : (-exponent).toNat = 0 := by omega
    rw [noDivisor, Nat.pow_zero, Nat.mul_one] at scaled
    simp [toInt?, noDivisor, scaled, Nat.mod_one]
  · have noFactor : exponent.toNat = 0 := by omega
    rw [noFactor, Nat.pow_zero, Nat.mul_one] at scaled
    simp [toInt?, noFactor, scaled]

theorem halved_scaled {mantissa value : Nat} {exponent : Int} (even : mantissa / 2 * 2 = mantissa)
    (scaled : mantissa * 2 ^ exponent.toNat = value * 2 ^ (-exponent).toNat) :
    mantissa / 2 * 2 ^ (exponent + 1).toNat = value * 2 ^ (-(exponent + 1)).toNat := by
  rcases Int.lt_or_le exponent 0 with fraction | whole
  · have noFactor : exponent.toNat = 0 := by omega
    have noNextFactor : (exponent + 1).toNat = 0 := by omega
    have divisor : (-exponent).toNat = (-(exponent + 1)).toNat + 1 := by omega
    rw [noFactor, divisor, Nat.pow_succ, ← Nat.mul_assoc value, Nat.pow_zero] at scaled
    rw [noNextFactor, Nat.pow_zero]
    omega
  · have factor : (exponent + 1).toNat = exponent.toNat + 1 := by omega
    have noDivisor : (-exponent).toNat = 0 := by omega
    have noNextDivisor : (-(exponent + 1)).toNat = 0 := by omega
    rw [noDivisor] at scaled
    rw [factor, noNextDivisor, Nat.pow_succ', ← Nat.mul_assoc, even]
    exact scaled

/-- A mantissa that has been rounded up is halved, which does not change the value. -/
theorem toInt?_ofMantissa (negative : Bool) {mantissa value : Nat} {exponent : Int}
    (finite : (ofMantissa negative mantissa exponent).isInfinite = false)
    (full : 2 ^ 52 ≤ mantissa) (rounded : mantissa ≤ 2 ^ 53) (least : -1074 ≤ exponent)
    (scaled : mantissa * 2 ^ exponent.toNat = value * 2 ^ (-exponent).toNat) :
    (ofMantissa negative mantissa exponent).toInt? = some (signed negative value) := by
  unfold ofMantissa at finite ⊢
  split
  · rename_i canonical
    exact toInt?_of_scaled negative canonical scaled
  · rename_i notCanonical
    split
    · rename_i carried
      obtain rfl : mantissa = 2 ^ 53 := by
        obtain ⟨-, -, most, -⟩ := carried
        simp only [IsCanonicalDouble, Nat.pow_eq] at notCanonical
        omega
      exact toInt?_of_scaled negative carried (halved_scaled (by decide) scaled)
    · rename_i notCarried
      simp [notCanonical, notCarried, isInfinite] at finite

/-- The rounded mantissa with its exponent is the rounded integer. -/
theorem integerMantissa_mul (magnitude : Nat) :
    integerMantissa magnitude * 2 ^ ((magnitude.log2 : Int) - 52).toNat =
      roundedMagnitude magnitude * 2 ^ (-((magnitude.log2 : Int) - 52)).toNat := by
  have above : ((magnitude.log2 : Int) - 52).toNat = magnitude.log2 - 52 := by omega
  have below : (-((magnitude.log2 : Int) - 52)).toNat = 52 - magnitude.log2 := by omega
  rw [above, below, integerMantissa, roundedMagnitude]
  rcases Nat.le_total magnitude.log2 52 with small | large
  · rw [Nat.sub_eq_zero_of_le small, Nat.pow_zero, Nat.mul_one, Nat.mul_one]
    have quotient := roundedQuotient_mul_self magnitude Nat.one_pos
    have scaledQuotient :=
      roundedQuotient_mul_self (magnitude * 2 ^ (52 - magnitude.log2)) Nat.one_pos
    rw [Nat.mul_one] at quotient scaledQuotient
    rw [quotient, scaledQuotient]
  · rw [Nat.sub_eq_zero_of_le large, Nat.pow_zero, Nat.mul_one, Nat.mul_one]

theorem toInt?_nearestInt {value : Int} (finite : (nearestInt value).isInfinite = false) :
    (nearestInt value).toInt? = some (roundedInt value) := by
  unfold nearestInt roundedInt at *
  generalize decide (value < 0) = negative at *
  generalize value.natAbs = magnitude at *
  rcases Nat.eq_zero_or_pos magnitude with rfl | positive
  · have zero : roundedMagnitude 0 = 0 := Nat.zero_mul _
    apply toInt?_of_scaled negative
    rw [zero, Nat.zero_mul, Nat.zero_mul]
  · obtain ⟨full, rounded⟩ := integerMantissa_bounds positive
    rw [nearest_one negative positive] at finite ⊢
    exact toInt?_ofMantissa negative finite full rounded (by omega) (integerMantissa_mul magnitude)

-- The exponents are variables here, so that no step computes the powers.
/-- An integer rounds beyond the finite numbers exactly if the short integer that it rounds to has
more binary digits than they have. -/
theorem isInfinite_nearestInt_iff_pow (power total : Nat) (isLast : power = 971)
    (isTotal : total = 53 + power) (value : Int) :
    (nearestInt value).isInfinite = true ↔ 2 ^ total ≤ (roundedInt value).natAbs := by
  rw [isTotal, roundedInt, Json.natAbs_signed, nearestInt]
  generalize decide (value < 0) = negative
  generalize value.natAbs = magnitude
  rcases Nat.eq_zero_or_pos magnitude with rfl | positive
  · apply iff_of_false Bool.false_ne_true
    exact Nat.not_le.mpr (Nat.two_pow_pos _)
  · obtain ⟨full, rounded⟩ := integerMantissa_bounds positive
    have product := integerMantissa_mul magnitude
    rw [nearest_one negative positive, isInfinite_ofMantissa_iff negative full rounded (by omega)]
    rcases Nat.lt_trichotomy magnitude.log2 (52 + power) with small | last | large
    · have bound : roundedMagnitude magnitude < 2 ^ (53 + power) := by
        calc roundedMagnitude magnitude
            ≤ integerMantissa magnitude * 2 ^ ((magnitude.log2 : Int) - 52).toNat := by
              rw [product]
              exact Nat.le_mul_of_pos_right _ (Nat.two_pow_pos _)
          _ ≤ 2 ^ 53 * 2 ^ ((magnitude.log2 : Int) - 52).toNat := Nat.mul_le_mul_right _ rounded
          _ = 2 ^ (53 + ((magnitude.log2 : Int) - 52).toNat) := (Nat.pow_add ..).symm
          _ < 2 ^ (53 + power) := Nat.pow_lt_pow_right Nat.one_lt_two (by omega)
      exact iff_of_false (by omega) (Nat.not_le.mpr bound)
    · have above : ((magnitude.log2 : Int) - 52).toNat = power := by omega
      have below : (-((magnitude.log2 : Int) - 52)).toNat = 0 := by omega
      rw [above, below, Nat.pow_zero, Nat.mul_one] at product
      rw [← product, Nat.pow_add, Nat.mul_le_mul_right_iff (Nat.two_pow_pos power)]
      omega
    · have below : (-((magnitude.log2 : Int) - 52)).toNat = 0 := by omega
      have bound : 2 ^ (53 + power) ≤ roundedMagnitude magnitude := by
        rw [below, Nat.pow_zero, Nat.mul_one] at product
        calc 2 ^ (53 + power)
            ≤ 2 ^ (52 + ((magnitude.log2 : Int) - 52).toNat) :=
              Nat.pow_le_pow_right Nat.two_pos (by omega)
          _ = 2 ^ 52 * 2 ^ ((magnitude.log2 : Int) - 52).toNat := Nat.pow_add ..
          _ ≤ integerMantissa magnitude * 2 ^ ((magnitude.log2 : Int) - 52).toNat :=
              Nat.mul_le_mul_right _ full
          _ = roundedMagnitude magnitude := product
      exact iff_of_true (by omega) bound

/-- The integers without a nearest finite number, told from the short integer. -/
theorem ofInt?_eq_none_iff_roundedInt (value : Int) :
    ofInt? value = none ↔ 2 ^ 1024 ≤ (roundedInt value).natAbs := by
  rw [ofInt?_eq_none_iff_isInfinite]
  exact isInfinite_nearestInt_iff_pow 971 1024 rfl rfl value

end ApiTypes.Double

namespace ApiTypes

namespace Text

theorem ofNat_injective {first second : Nat} (same : ofNat first = ofNat second) :
    first = second := by
  have digits : Nat.toDigits 10 first = Nat.toDigits 10 second := by
    refine List.map_inj_right ?_ |>.mp same
    intro char other
    exact CodePoint.scalar.inj
  rw [← Nat.ofDigitChars_ten_toDigits (n := first), digits, Nat.ofDigitChars_ten_toDigits]

theorem ofNat_ne_minus {first : Nat} {others : Text} : ofNat first ≠ .scalar '-' :: others := by
  intro same
  have member : CodePoint.scalar '-' ∈ ofNat first := by simp [same]
  obtain ⟨char, digit, charEq⟩ := List.mem_map.mp member
  obtain rfl := CodePoint.scalar.inj charEq
  have isDigit := Nat.isDigit_of_mem_toDigits (by decide) (by decide) digit
  cases isDigit

theorem ofInt_injective {first second : Int} (same : ofInt first = ofInt second) :
    first = second := by
  cases first with
  | ofNat first =>
      cases second with
      | ofNat second => exact congrArg Int.ofNat (ofNat_injective same)
      | negSucc second => exact absurd same ofNat_ne_minus
  | negSucc first =>
      cases second with
      | ofNat second => exact absurd same.symm ofNat_ne_minus
      | negSucc second =>
          have magnitudes := ofNat_injective (List.cons.inj same).2
          omega

end Text

namespace Literal

/-- The text of the literal of an integer. -/
def integerText (value : Int) : Except LiteralFault Text :=
  render <$> (ofData (.integer value)).outcome

theorem integerText_eq_error_iff (value : Int) :
    integerText value = .error .integerTooLarge ↔ Double.ofInt? value = none := by
  rw [integerText, ofData]
  cases Double.ofInt? value with
  | none => exact iff_of_true rfl rfl
  | some number => exact iff_of_false nofun nofun

theorem integerText_eq_ok {value : Int} (finite : Double.ofInt? value ≠ none) :
    integerText value = .ok (Text.ofInt (Double.roundedInt value)) := by
  rw [Ne, Double.ofInt?_eq_none_iff_isInfinite, Bool.not_eq_true] at finite
  have integral := Double.toInt?_nearestInt finite
  rw [integerText, ofData, Double.ofInt?]
  cases nearest : Double.nearestInt value with
  | infinite negative =>
      rw [nearest] at finite
      cases finite
  | notANumber =>
      rw [nearest] at integral
      cases integral
  | finite negative mantissa exponent canonical =>
      rw [nearest] at integral
      exact congrArg Except.ok (by simp only [render, numeral, integral])

theorem eq_roundedInt_of_integerText {value rounded : Int}
    (text : integerText value = .ok (Text.ofInt rounded)) :
    rounded = Double.roundedInt value := by
  by_cases finite : Double.ofInt? value = none
  · rw [(integerText_eq_error_iff value).mpr finite] at text
    cases text
  · rw [integerText_eq_ok finite] at text
    exact (Text.ofInt_injective (Except.ok.inj text)).symm

/-- Short integers have their own numeral unless there is no finite number as great. -/
theorem integerText_of_isShort {value : Int} (isShort : Double.IsShort value)
    (less : value.natAbs < 2 ^ 1024) : integerText value = .ok (Text.ofInt value) := by
  have self := Double.roundedInt_of_isShort isShort
  have finite : Double.ofInt? value ≠ none := by
    rw [Ne, Double.ofInt?_eq_none_iff_roundedInt, self]
    exact Nat.not_le.mpr less
  rw [integerText_eq_ok finite, self]

/-- The literal of an integer is the numeral of the nearest short integer, of two the one that more
powers of two divide.  There is none if this has more than 1024 binary digits, which begins halfway
before.  Integers of up to 53 digits and the literals themselves stay what they are, and the
literals are in the order of the integers. -/
theorem integer_literals_are_rounded (value : Int) :
    (∀ rounded, Double.RoundsTo value rounded ↔ rounded = Double.roundedInt value) ∧
      (integerText value = .error .integerTooLarge ↔
        2 ^ 1024 ≤ (Double.roundedInt value).natAbs) ∧
      (2 ^ 1024 ≤ (Double.roundedInt value).natAbs ↔ 2 ^ 1024 - 2 ^ 970 ≤ value.natAbs) ∧
      ((Double.roundedInt value).natAbs < 2 ^ 1024 →
        integerText value = .ok (Text.ofInt (Double.roundedInt value))) ∧
      (value.natAbs ≤ 2 ^ 53 → integerText value = .ok (Text.ofInt value)) ∧
      (∀ again, integerText value = .ok (Text.ofInt again) →
        integerText again = .ok (Text.ofInt again)) ∧
      ∀ greater rounded greaterRounded, value ≤ greater →
        integerText value = .ok (Text.ofInt rounded) →
        integerText greater = .ok (Text.ofInt greaterRounded) →
        rounded ≤ greaterRounded := by
  have none := Double.ofInt?_eq_none_iff_roundedInt value
  refine ⟨Double.roundsTo_iff value, ?fails, ?threshold, ?succeeds, ?small, ?stable, ?monotone⟩
  case fails => rw [integerText_eq_error_iff, none]
  case threshold => exact none.symm.trans (Double.ofInt?_eq_none_iff value)
  case succeeds =>
    intro less
    rw [← Nat.not_le, ← none] at less
    exact integerText_eq_ok less
  case small =>
    intro small
    apply integerText_of_isShort (Double.isShort_of_natAbs_le small)
    have digits : 53 < 1024 := by decide
    calc value.natAbs
        ≤ 2 ^ 53 := small
      _ < 2 ^ 1024 := pow_lt_pow_right₀ Nat.one_lt_two digits
  case stable =>
    intro again text
    obtain rfl := eq_roundedInt_of_integerText text
    apply integerText_of_isShort (Double.roundsTo_roundedInt value).isShort
    rw [← Nat.not_le, ← none, ← integerText_eq_error_iff, text]
    exact nofun
  case monotone =>
    intro greater rounded greaterRounded le text greaterText
    rw [eq_roundedInt_of_integerText text, eq_roundedInt_of_integerText greaterText]
    exact (Double.roundsTo_roundedInt value).mono le (Double.roundsTo_roundedInt greater)

end Literal

end ApiTypes
