import ApiTypes.Double.Text
import ApiTypes.Proofs.NearestDoubles

/-!
# Shortest decimals

The decimal that the text of a finite number shows reads back as that number.  The
search keeps only decimals that do; where it finds none, the decimal of all digits has
the value of the number itself.
-/

namespace ApiTypes

namespace Double

/-! ## Zeros at the end of the digits -/

theorem length_toDigits_mul_ten {digits : Nat} (positive : 0 < digits) :
    (Nat.toDigits 10 (digits * 10)).length = (Nat.toDigits 10 digits).length + 1 := by
  have split := Nat.toDigits_append_toDigits (b := 10) (n := digits) (d := 0)
    (by decide) positive (by decide)
  rw [Nat.mul_comm, ← Nat.add_zero (10 * digits), ← split, List.length_append]
  rfl

theorem nearestDecimal_mul_ten (negative : Bool) (digits : Nat) (power : Int) :
    nearestDecimal negative (digits * 10) power = nearestDecimal negative digits (power + 1) := by
  by_cases zero : digits = 0
  · simp [nearestDecimal, zero]
  · have positive := Nat.pos_of_ne_zero zero
    have magnitude : ((Nat.toDigits 10 digits).length + 1 : Nat) + power =
        (Nat.toDigits 10 digits).length + (power + 1) := by omega
    have scaledNonzero : digits * 10 ≠ 0 := by omega
    have same : digits * 10 * 10 ^ power.toNat * 10 ^ (-(power + 1)).toNat =
        digits * 10 ^ (power + 1).toNat * 10 ^ (-power).toNat := by
      have exponents : 1 + power.toNat + (-(power + 1)).toNat =
          (power + 1).toNat + (-power).toNat := by omega
      rw [Nat.mul_assoc digits (10 ^ _), ← Nat.pow_add, ← exponents, Nat.pow_add, Nat.pow_add,
        Nat.pow_one]
      simp only [Nat.mul_assoc]
    simp only [nearestDecimal, zero, scaledNonzero, false_or, length_toDigits_mul_ten positive,
      magnitude, Nat.pow_eq]
    rw [nearest_eq_of_mul_eq_mul negative (Nat.pow_pos (by decide)) (Nat.pow_pos (by decide)) same]

theorem nearestDecimal_mul_pow_ten (negative : Bool) (digits zeros : Nat) (power : Int) :
    nearestDecimal negative (digits * 10 ^ zeros) power =
      nearestDecimal negative digits (power + zeros) := by
  induction zeros generalizing power with
  | zero => simp
  | succ zeros induction =>
      have next : power + 1 + zeros = power + (zeros + 1 : Nat) := by omega
      rw [Nat.pow_succ, ← Nat.mul_assoc, nearestDecimal_mul_ten, induction, next]

/-! ## Decimals within the range of numbers -/

/-- A decimal in the range where the nearest number is computed. -/
theorem nearestDecimal_eq_nearest (negative : Bool) {digits : Nat} {power : Int}
    (nonzero : digits ≠ 0) (low : -330 ≤ ((Nat.toDigits 10 digits).length : Int) + power)
    (high : ((Nat.toDigits 10 digits).length : Int) + power ≤ 330) :
    nearestDecimal negative digits power =
      nearest negative (digits * 10 ^ power.toNat) (10 ^ (-power).toNat) := by
  have notLow : ¬ ((Nat.toDigits 10 digits).length : Int) + power < -330 := by omega
  have notHigh : ¬ 330 < ((Nat.toDigits 10 digits).length : Int) + power := by omega
  simp only [nearestDecimal, nonzero, notLow, notHigh, false_or, if_false, Nat.pow_eq]

/-- All digits of a number with a negative exponent. -/
theorem nearestDecimal_of_negative_exponent (negative : Bool) {mantissa places : Nat}
    (canonical : IsCanonicalDouble mantissa (-places)) (positive : 0 < mantissa) :
    nearestDecimal negative (mantissa * 5 ^ places) (-places) =
      .finite negative mantissa (-places) canonical := by
  obtain ⟨below, least, -, -⟩ := id canonical
  have nonzero : mantissa * 5 ^ places ≠ 0 :=
    Nat.ne_of_gt (Nat.mul_pos positive (Nat.pow_pos (by decide)))
  have notLong : (Nat.toDigits 10 (mantissa * 5 ^ places)).length ≤ 330 + places := by
    rw [Nat.length_toDigits_le_iff (by decide) (by omega), Nat.pow_add]
    apply Nat.mul_lt_mul_of_lt_of_le
    · exact Nat.lt_of_lt_of_le below (by decide +kernel)
    · exact Nat.pow_le_pow_left (by decide) places
    · exact Nat.pow_pos (by decide)
  have notShort : places ≤ (Nat.toDigits 10 (mantissa * 5 ^ places)).length + 330 := by
    apply Nat.le_of_not_lt
    intro short
    obtain ⟨excess, rfl⟩ : ∃ excess, places = excess + 331 := ⟨places - 331, by omega⟩
    have smaller : mantissa * 5 ^ (excess + 331) < 10 ^ excess := by
      have excessPos : 0 < excess := by
        have := List.length_pos_iff.mpr
          (Nat.toDigits_ne_nil (n := mantissa * 5 ^ (excess + 331)) (b := 10))
        omega
      rw [← Nat.length_toDigits_le_iff (by decide) excessPos]
      omega
    have excessBound : excess ≤ 743 := by omega
    have powers : 2 ^ excess ≤ 5 ^ 331 := by
      have largest := Nat.pow_le_pow_right (n := 2) (by decide) excessBound
      exact Nat.le_trans largest (by decide +kernel)
    have larger {more : Nat} (powers : 2 ^ excess ≤ 5 ^ more) :
        10 ^ excess ≤ mantissa * 5 ^ (excess + more) := by
      calc
        10 ^ excess = 5 ^ excess * 2 ^ excess := Nat.mul_pow 5 2 excess
        _ ≤ 5 ^ excess * 5 ^ more := Nat.mul_le_mul_left _ powers
        _ = 5 ^ (excess + more) := (Nat.pow_add ..).symm
        _ ≤ mantissa * 5 ^ (excess + more) := Nat.le_mul_of_pos_left _ positive
    exact Nat.not_le_of_gt smaller (larger powers)
  rw [nearestDecimal_eq_nearest negative nonzero (by omega) (by omega),
    ← nearest_of_canonical negative canonical positive]
  apply nearest_eq_of_mul_eq_mul
  · exact Nat.pow_pos (by decide)
  · exact Nat.pow_pos (by decide)
  · have noPower : (-(places : Int)).toNat = 0 := by omega
    have allPlaces : (-(-(places : Int))).toNat = places := by omega
    simp only [noPower, allPlaces, Nat.pow_zero, Nat.mul_one]
    rw [Nat.mul_assoc, ← Nat.mul_pow]

/-- All digits of a number that is an integer. -/
theorem nearestDecimal_of_integer (negative : Bool) {mantissa integer : Nat} {exponent : Int}
    (canonical : IsCanonicalDouble mantissa exponent) (positive : 0 < mantissa)
    (value : integer * 2 ^ (-exponent).toNat = mantissa * 2 ^ exponent.toNat) :
    nearestDecimal negative integer 0 = .finite negative mantissa exponent canonical := by
  obtain ⟨below, -, greatest, -⟩ := id canonical
  have nonzero : integer ≠ 0 := by
    rintro rfl
    have scaledPos := Nat.mul_pos positive (Nat.two_pow_pos exponent.toNat)
    omega
  have exponentBound : exponent.toNat ≤ 971 := by omega
  have inRange {bound : Nat} (le : exponent.toNat ≤ bound) :
      mantissa * 2 ^ exponent.toNat < 2 ^ 53 * 2 ^ bound := by
    apply Nat.mul_lt_mul_of_lt_of_le below
    · exact Nat.pow_le_pow_right (by decide) le
    · exact Nat.two_pow_pos _
  have notLong : (Nat.toDigits 10 integer).length ≤ 330 := by
    rw [Nat.length_toDigits_le_iff (by decide) (by decide)]
    calc
      integer ≤ integer * 2 ^ (-exponent).toNat :=
        Nat.le_mul_of_pos_right _ (Nat.two_pow_pos _)
      _ = mantissa * 2 ^ exponent.toNat := value
      _ < 2 ^ 53 * 2 ^ 971 := inRange exponentBound
      _ ≤ 10 ^ 330 := by decide +kernel
  rw [nearestDecimal_eq_nearest negative nonzero (by omega) (by omega),
    ← nearest_of_canonical negative canonical positive]
  apply nearest_eq_of_mul_eq_mul
  · exact Nat.pow_pos (by decide)
  · exact Nat.two_pow_pos _
  · simpa using value

end Double

namespace Decimal

/-! ## The search for the shortest decimal -/

theorem toDouble_withoutTrailingZeros (decimal : Decimal) (fuel : Nat) :
    (decimal.withoutTrailingZeros fuel).toDouble = decimal.toDouble := by
  induction fuel generalizing decimal with
  | zero => rfl
  | succ fuel induction =>
      rw [withoutTrailingZeros]
      split
      · rename_i trailing
        have whole : decimal.digits / 10 * 10 = decimal.digits := by omega
        rw [induction, toDouble, ← Double.nearestDecimal_mul_ten, whole, toDouble]
      · rfl

theorem toDouble_of_readingBack? {number : Double} {numerator denominator : Nat} {power : Int}
    {decimal : Decimal}
    (found : readingBack? number numerator denominator power = some decimal) :
    decimal.toDouble = number := by
  simp only [readingBack?] at found
  split at found
  · rename_i below
    split at found
    · rename_i above
      -- Rounding gives one of the two decimals that read back.
      rcases Double.roundedQuotient_cases (numerator * Nat.pow 10 (-power).toNat)
        (denominator * Nat.pow 10 power.toNat) with down | up
      · rw [down] at found
        rwa [← Option.some.inj found]
      · rw [up] at found
        rwa [← Option.some.inj found]
    · rwa [← Option.some.inj found]
  · split at found
    · rename_i above
      rwa [← Option.some.inj found]
    · simp at found

theorem toDouble_of_shortestFrom {number : Double} {numerator denominator : Nat} {power : Int}
    {more : Nat} {decimal : Decimal}
    (found : shortestFrom number numerator denominator power more = some decimal) :
    decimal.toDouble = number := by
  induction more generalizing power with
  | zero => simp [shortestFrom] at found
  | succ more induction =>
      rw [shortestFrom] at found
      split at found
      · rename_i first readsBack
        rw [Option.some.inj found] at readsBack
        exact toDouble_of_readingBack? readsBack
      · exact induction found

/-- The shortest decimal of a number reads back as the number. -/
theorem toDouble_shortest {mantissa : Nat} {exponent : Int}
    (canonical : IsCanonicalDouble mantissa exponent) :
    (shortest mantissa exponent canonical).toDouble =
      .finite false mantissa exponent canonical := by
  by_cases zero : mantissa = 0
  · subst zero
    obtain ⟨-, -, -, filled⟩ := id canonical
    have leastExponent : exponent = -1074 := filled.resolve_left (by decide)
    subst leastExponent
    rfl
  · have positive := Nat.pos_of_ne_zero zero
    simp only [shortest, zero, if_false, toDouble_withoutTrailingZeros]
    cases found : shortestFrom (.finite false mantissa exponent canonical)
        (mantissa * Nat.pow 2 exponent.toNat) (Nat.pow 2 (-exponent).toNat)
        (pointOfRatio (mantissa * Nat.pow 2 exponent.toNat) (Nat.pow 2 (-exponent).toNat) - 1)
        17 with
    | some decimal => exact toDouble_of_shortestFrom found
    | none =>
        rw [Option.getD_none, toDouble]
        by_cases fractional : exponent < 0
        · obtain ⟨places, rfl⟩ : ∃ places : Nat, exponent = -places :=
            ⟨(-exponent).toNat, by omega⟩
          have noPower : (-(places : Int)).toNat = 0 := by omega
          have allPlaces : (-(-(places : Int))).toNat = places := by omega
          have least : min (-(places : Int)) 0 = -places := by omega
          simp only [noPower, allPlaces, least, Nat.pow_eq, Nat.pow_zero, Nat.mul_one]
          exact Double.nearestDecimal_of_negative_exponent false canonical positive
        · have noPlaces : (-exponent).toNat = 0 := by omega
          have least : min exponent 0 = 0 := by omega
          simp only [noPlaces, least, Nat.pow_eq, Nat.pow_zero, Nat.mul_one]
          apply Double.nearestDecimal_of_integer false canonical positive
          rw [noPlaces, Nat.pow_zero, Nat.mul_one]

end Decimal

end ApiTypes
