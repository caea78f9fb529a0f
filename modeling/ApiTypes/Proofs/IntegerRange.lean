import ApiTypes.Proofs.NearestDoubles

/-!
# The range of integers

An integer rounds to a finite number unless it is too large.  The bound is the midpoint
between the greatest finite number and the next power of two, from which rounding goes
up.
-/

namespace ApiTypes.Double

/-- The least magnitude at which integers round beyond the finite numbers. -/
def overflowMagnitude : Nat := 2 ^ 1024 - 2 ^ 970

def isInfinite : Double → Bool
  | .infinite _ => true
  | _ => false

theorem ofInt?_eq_none_iff_isInfinite (value : Int) :
    ofInt? value = none ↔ (nearestInt value).isInfinite = true := by
  unfold ofInt?
  cases nearestInt value <;> simp [isInfinite]

/-- A mantissa of 53 bits, or one that has been rounded up to the next power of two, is too large
only with the exponents at the end of the range. -/
theorem isInfinite_ofMantissa_iff (negative : Bool) {mantissa : Nat} {exponent : Int}
    (full : 2 ^ 52 ≤ mantissa) (rounded : mantissa ≤ 2 ^ 53) (least : -1074 ≤ exponent) :
    (ofMantissa negative mantissa exponent).isInfinite = true ↔
      971 < exponent ∨ exponent = 971 ∧ mantissa = 2 ^ 53 := by
  unfold ofMantissa
  split
  · rename_i canonical
    obtain ⟨below, -, most, -⟩ := canonical
    rw [Nat.pow_eq] at below
    exact iff_of_false Bool.false_ne_true (by omega)
  · rename_i notCanonical
    split
    · rename_i carried
      obtain ⟨-, -, most, -⟩ := carried
      exact iff_of_false Bool.false_ne_true (by omega)
    · rename_i notCarried
      simp only [IsCanonicalDouble, Nat.pow_eq] at notCanonical notCarried
      exact iff_of_true rfl (by omega)

theorem binaryMagnitude_one {magnitude : Nat} (positive : 0 < magnitude) :
    binaryMagnitude magnitude 1 = magnitude.log2 := by
  simpa using binaryMagnitude_of_scaled positive 0

/-- The mantissa to which a positive integer is rounded. -/
def integerMantissa (magnitude : Nat) : Nat :=
  roundedQuotient (magnitude * 2 ^ (52 - magnitude.log2)) (2 ^ (magnitude.log2 - 52))

theorem nearest_one (negative : Bool) {magnitude : Nat} (positive : 0 < magnitude) :
    nearest negative magnitude 1 =
      ofMantissa negative (integerMantissa magnitude) (magnitude.log2 - 52) := by
  have exponent : max ((magnitude.log2 : Int) - 52) (-1074) = magnitude.log2 - 52 := by omega
  have below : (-((magnitude.log2 : Int) - 52)).toNat = 52 - magnitude.log2 := by omega
  have above : ((magnitude.log2 : Int) - 52).toNat = magnitude.log2 - 52 := by omega
  simp only [nearest, Nat.ne_of_gt positive, if_false, binaryMagnitude_one positive, exponent,
    below, above, Nat.pow_eq, Nat.one_mul, integerMantissa]

theorem integerMantissa_bounds {magnitude : Nat} (positive : 0 < magnitude) :
    2 ^ 52 ≤ integerMantissa magnitude ∧ integerMantissa magnitude ≤ 2 ^ 53 := by
  have low := Nat.log2_self_le (Nat.ne_of_gt positive)
  have high := Nat.lt_log2_self (n := magnitude)
  have scaledLow : 2 ^ 52 * 2 ^ (magnitude.log2 - 52) ≤
      magnitude * 2 ^ (52 - magnitude.log2) := by
    rw [← Nat.pow_add]
    calc 2 ^ (52 + (magnitude.log2 - 52))
        = 2 ^ magnitude.log2 * 2 ^ (52 - magnitude.log2) := by
          rw [← Nat.pow_add]
          congr 1
          omega
      _ ≤ magnitude * 2 ^ (52 - magnitude.log2) := Nat.mul_le_mul_right _ low
  have scaledHigh : magnitude * 2 ^ (52 - magnitude.log2) <
      2 ^ 53 * 2 ^ (magnitude.log2 - 52) := by
    rw [← Nat.pow_add]
    calc magnitude * 2 ^ (52 - magnitude.log2)
        < 2 ^ (magnitude.log2 + 1) * 2 ^ (52 - magnitude.log2) :=
          Nat.mul_lt_mul_of_pos_right high (Nat.two_pow_pos _)
      _ = 2 ^ (53 + (magnitude.log2 - 52)) := by
          rw [← Nat.pow_add]
          congr 1
          omega
  have quotientLow := (Nat.le_div_iff_mul_le (Nat.two_pow_pos _)).mpr scaledLow
  have quotientHigh := (Nat.div_lt_iff_lt_mul (Nat.two_pow_pos _)).mpr scaledHigh
  rcases roundedQuotient_cases (magnitude * 2 ^ (52 - magnitude.log2))
      (2 ^ (magnitude.log2 - 52)) with down | up
  · rw [integerMantissa, down]
    exact ⟨quotientLow, Nat.le_of_lt quotientHigh⟩
  · rw [integerMantissa, up]
    exact ⟨Nat.le_succ_of_le quotientLow, quotientHigh⟩

theorem integerMantissa_of_log2 {magnitude : Nat} (power : Nat)
    (log : magnitude.log2 = 53 + power) :
    integerMantissa magnitude = roundedQuotient magnitude (2 * 2 ^ power) := by
  have noScale : 52 - (53 + power) = 0 := by omega
  have scale : 53 + power - 52 = power + 1 := by omega
  rw [integerMantissa, log, noScale, scale, Nat.pow_zero, Nat.mul_one, Nat.pow_succ']

/-- At the last exponent, rounding goes up to the next power of two from the midpoint on. -/
theorem roundedQuotient_last_iff (magnitude half : Nat) (positive : 0 < half)
    (below : magnitude < 2 ^ 54 * half) :
    roundedQuotient magnitude (2 * half) = 2 ^ 53 ↔ 2 ^ 54 * half - half ≤ magnitude := by
  have whole := Nat.div_add_mod magnitude (2 * half)
  have remainder := Nat.mod_lt magnitude (Nat.mul_pos Nat.two_pos positive)
  have quotientBound : magnitude / (2 * half) < 2 ^ 53 := by
    rw [Nat.div_lt_iff_lt_mul (Nat.mul_pos Nat.two_pos positive)]
    omega
  unfold roundedQuotient
  generalize magnitude / (2 * half) = quotient at *
  generalize magnitude % (2 * half) = rest at *
  rcases Nat.lt_or_ge quotient (2 ^ 53 - 1) with less | last
  · have bound : 2 * half * quotient ≤ 2 * half * (2 ^ 53 - 2) :=
      Nat.mul_le_mul_left _ (by omega)
    dsimp only
    constructor
    · split
      · omega
      · split <;> omega
    · intro reached
      omega
  · obtain rfl : quotient = 2 ^ 53 - 1 := by omega
    dsimp only
    constructor
    · split
      · omega
      · omega
    · intro reached
      split
      · omega
      · split <;> omega

/-- An integer without a nearest finite number reaches the midpoint behind the last one, whose
exponent is one more than the given power. -/
theorem ofInt?_eq_none_iff_midpoint (power total : Nat) (isLast : power = 970)
    (isTotal : total = 54 + power) (value : Int) :
    ofInt? value = none ↔ 2 ^ total - 2 ^ power ≤ value.natAbs := by
  rw [isTotal, Nat.pow_add, ofInt?_eq_none_iff_isInfinite, nearestInt]
  generalize decide (value < 0) = negative
  generalize value.natAbs = magnitude
  have room : 0 < 2 ^ power := Nat.two_pow_pos power
  rcases Nat.eq_zero_or_pos magnitude with rfl | positive
  · exact iff_of_false Bool.false_ne_true (by omega)
  · obtain ⟨full, rounded⟩ := integerMantissa_bounds positive
    have low := Nat.log2_self_le (Nat.ne_of_gt positive)
    have high := Nat.lt_log2_self (n := magnitude)
    rw [nearest_one negative positive, isInfinite_ofMantissa_iff negative full rounded (by omega)]
    rcases Nat.lt_trichotomy magnitude.log2 (53 + power) with small | last | large
    · -- The whole binade lies within the range.
      have bound : magnitude < 2 ^ (53 + power) :=
        Nat.lt_of_lt_of_le high (Nat.pow_le_pow_right Nat.two_pos small)
      rw [Nat.pow_add] at bound
      exact iff_of_false (by omega) (by omega)
    · rw [last, Nat.add_right_comm, Nat.pow_add] at high
      rw [integerMantissa_of_log2 power last,
        ← roundedQuotient_last_iff magnitude (2 ^ power) room high]
      omega
    · have bound : 2 ^ (54 + power) ≤ magnitude :=
        Nat.le_trans (Nat.pow_le_pow_right Nat.two_pos (by omega)) low
      rw [Nat.pow_add] at bound
      exact iff_of_true (by omega) (by omega)

/-- The integers without a nearest finite number. -/
theorem ofInt?_eq_none_iff (value : Int) :
    ofInt? value = none ↔ overflowMagnitude ≤ value.natAbs := by
  rw [overflowMagnitude]
  exact ofInt?_eq_none_iff_midpoint 970 1024 rfl rfl value

end ApiTypes.Double
