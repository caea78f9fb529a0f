import ApiTypes.Double
import Mathlib.Algebra.Group.Nat.Defs

/-!
# Nearest numbers

The number nearest to a ratio depends on its value only, not on the numerator and the
denominator that it is given by, and the number nearest to one of double precision is
that number.
-/

namespace ApiTypes.Double

/-! ## Rounded quotients -/

theorem roundedQuotient_mul_right (numerator denominator : Nat) {factor : Nat}
    (positive : 0 < factor) :
    roundedQuotient (numerator * factor) (denominator * factor) =
      roundedQuotient numerator denominator := by
  have twice : 2 * (numerator % denominator * factor) = 2 * (numerator % denominator) * factor :=
    (Nat.mul_assoc ..).symm
  simp only [roundedQuotient, Nat.mul_div_mul_right _ _ positive, Nat.mul_mod_mul_right, twice,
    Nat.mul_lt_mul_right positive]

theorem roundedQuotient_mul_self (quotient : Nat) {denominator : Nat}
    (positive : 0 < denominator) :
    roundedQuotient (quotient * denominator) denominator = quotient := by
  simp [roundedQuotient, positive]

theorem roundedQuotient_cases (numerator denominator : Nat) :
    roundedQuotient numerator denominator = numerator / denominator ∨
      roundedQuotient numerator denominator = numerator / denominator + 1 := by
  have parity := Nat.mod_two_eq_zero_or_one (numerator / denominator)
  simp only [roundedQuotient]
  split
  · exact .inl rfl
  · split
    · exact .inr rfl
    · rcases parity with even | odd
      · left
        rw [even, Nat.add_zero]
      · right
        rw [odd]

/-! ## Binary magnitudes -/

/-- A ratio is at least a power of two. -/
def Reaches (numerator denominator : Nat) (power : Int) : Prop :=
  denominator * 2 ^ power.toNat ≤ numerator * 2 ^ (-power).toNat

/-- The power may be written as a difference in any way. -/
theorem reaches_iff {numerator denominator above below : Nat} {power : Int}
    (difference : (above : Int) - below = power) :
    Reaches numerator denominator power ↔
      denominator * 2 ^ above ≤ numerator * 2 ^ below := by
  obtain ⟨common, rfl, rfl⟩ : ∃ common, above = power.toNat + common ∧
      below = (-power).toNat + common := ⟨above - power.toNat, by omega, by omega⟩
  rw [Reaches, Nat.pow_add, Nat.pow_add, ← Nat.mul_assoc, ← Nat.mul_assoc]
  exact (Nat.mul_le_mul_right_iff (Nat.two_pow_pos common)).symm

theorem Reaches.anti {numerator denominator : Nat} {power smaller : Int}
    (reaches : Reaches numerator denominator power) (le : smaller ≤ power) :
    Reaches numerator denominator smaller := by
  have above : ((power + (-smaller).toNat).toNat : Int) - (-smaller).toNat = power := by omega
  have smallerEq : (smaller.toNat : Int) - (-smaller).toNat = smaller := by omega
  rw [reaches_iff above] at reaches
  rw [reaches_iff smallerEq]
  apply Nat.le_trans _ reaches
  apply Nat.mul_le_mul_left
  exact Nat.pow_le_pow_right (by decide) (by omega)

theorem reaches_mul_right_iff {numerator denominator factor : Nat} {power : Int}
    (positive : 0 < factor) :
    Reaches (numerator * factor) (denominator * factor) power ↔
      Reaches numerator denominator power := by
  rw [Reaches, Nat.mul_right_comm, Nat.mul_right_comm numerator,
    Nat.mul_le_mul_right_iff positive]
  rfl

/-- A power that is reached while the next one is not. -/
theorem eq_of_reaches {numerator denominator : Nat} {first second : Int}
    (firstReached : Reaches numerator denominator first)
    (firstLast : ¬ Reaches numerator denominator (first + 1))
    (secondReached : Reaches numerator denominator second)
    (secondLast : ¬ Reaches numerator denominator (second + 1)) : first = second := by
  apply Int.le_antisymm
  · apply Int.not_lt.mp
    intro less
    exact secondLast (firstReached.anti less)
  · apply Int.not_lt.mp
    intro less
    exact firstLast (secondReached.anti less)

theorem reaches_binaryMagnitude {numerator denominator : Nat} (numeratorPos : 0 < numerator)
    (denominatorPos : 0 < denominator) :
    Reaches numerator denominator (binaryMagnitude numerator denominator) ∧
      ¬ Reaches numerator denominator (binaryMagnitude numerator denominator + 1) := by
  have numeratorLow := Nat.log2_self_le (Nat.ne_of_gt numeratorPos)
  have numeratorHigh := Nat.lt_log2_self (n := numerator)
  have denominatorLow := Nat.log2_self_le (Nat.ne_of_gt denominatorPos)
  have denominatorHigh := Nat.lt_log2_self (n := denominator)
  -- The ratio of the logarithms misses the magnitude by at most one.
  have notAbove : ¬ Reaches numerator denominator
      ((numerator.log2 : Int) - denominator.log2 + 1) := by
    have difference : ((numerator.log2 + 1 : Nat) : Int) - denominator.log2 =
        (numerator.log2 : Int) - denominator.log2 + 1 := by omega
    rw [reaches_iff difference, Nat.not_le, Nat.mul_comm denominator]
    exact Nat.mul_lt_mul_of_lt_of_le numeratorHigh denominatorLow denominatorPos
  have below : Reaches numerator denominator
      ((numerator.log2 : Int) - denominator.log2 - 1) := by
    have difference : (numerator.log2 : Int) - (denominator.log2 + 1 : Nat) =
        (numerator.log2 : Int) - denominator.log2 - 1 := by omega
    rw [reaches_iff difference, Nat.mul_comm denominator]
    exact Nat.mul_le_mul numeratorLow (Nat.le_of_lt denominatorHigh)
  unfold binaryMagnitude
  dsimp only
  split
  · rename_i reached
    exact ⟨reached, notAbove⟩
  · rename_i missed
    exact ⟨below, by rwa [Int.sub_add_cancel]⟩

theorem binaryMagnitude_mul_right {numerator denominator factor : Nat}
    (numeratorPos : 0 < numerator) (denominatorPos : 0 < denominator) (positive : 0 < factor) :
    binaryMagnitude (numerator * factor) (denominator * factor) =
      binaryMagnitude numerator denominator := by
  obtain ⟨reached, last⟩ := reaches_binaryMagnitude numeratorPos denominatorPos
  obtain ⟨scaledReached, scaledLast⟩ := reaches_binaryMagnitude
    (Nat.mul_pos numeratorPos positive) (Nat.mul_pos denominatorPos positive)
  rw [reaches_mul_right_iff positive] at scaledReached scaledLast
  exact eq_of_reaches scaledReached scaledLast reached last

/-! ## Nearest numbers -/

theorem nearest_mul_right (negative : Bool) (numerator : Nat) {denominator factor : Nat}
    (denominatorPos : 0 < denominator) (positive : 0 < factor) :
    nearest negative (numerator * factor) (denominator * factor) =
      nearest negative numerator denominator := by
  by_cases zero : numerator = 0
  · simp [nearest, zero]
  · have numeratorPos := Nat.pos_of_ne_zero zero
    have scaledNonzero := Nat.ne_of_gt (Nat.mul_pos numeratorPos positive)
    simp only [nearest, zero, scaledNonzero, if_false,
      binaryMagnitude_mul_right numeratorPos denominatorPos positive]
    rw [Nat.mul_right_comm, Nat.mul_right_comm denominator, roundedQuotient_mul_right _ _ positive]

/-- The nearest number depends on the value of the ratio only. -/
theorem nearest_eq_of_mul_eq_mul (negative : Bool) {numerator denominator other divisor : Nat}
    (denominatorPos : 0 < denominator) (divisorPos : 0 < divisor)
    (same : numerator * divisor = other * denominator) :
    nearest negative numerator denominator = nearest negative other divisor := by
  rw [← nearest_mul_right negative numerator denominatorPos divisorPos, same,
    Nat.mul_comm denominator, nearest_mul_right negative other divisorPos denominatorPos]

theorem binaryMagnitude_of_scaled {mantissa : Nat} (positive : 0 < mantissa) (exponent : Int) :
    binaryMagnitude (mantissa * 2 ^ exponent.toNat) (2 ^ (-exponent).toNat) =
      mantissa.log2 + exponent := by
  have scaled (power : Nat) :
      Reaches (mantissa * 2 ^ exponent.toNat) (2 ^ (-exponent).toNat) (power + exponent) ↔
        2 ^ power ≤ mantissa := by
    have difference : ((power + exponent.toNat : Nat) : Int) - (-exponent).toNat =
        power + exponent := by omega
    rw [reaches_iff difference, Nat.pow_add, Nat.mul_left_comm, Nat.mul_assoc,
      Nat.mul_comm (2 ^ (-exponent).toNat) (2 ^ exponent.toNat)]
    apply Nat.mul_le_mul_right_iff
    exact Nat.mul_pos (Nat.two_pow_pos _) (Nat.two_pow_pos _)
  obtain ⟨reached, last⟩ := reaches_binaryMagnitude
    (Nat.mul_pos positive (Nat.two_pow_pos exponent.toNat)) (Nat.two_pow_pos (-exponent).toNat)
  apply eq_of_reaches reached last
  · rw [scaled]
    exact Nat.log2_self_le (Nat.ne_of_gt positive)
  · have next : (mantissa.log2 : Int) + exponent + 1 = (mantissa.log2 + 1 : Nat) + exponent := by
      omega
    rw [next, scaled, Nat.not_le]
    exact Nat.lt_log2_self

/-! ## Numbers nearest to themselves -/

theorem binaryExponent_eq {mantissa : Nat} {exponent : Int}
    (canonical : IsCanonicalDouble mantissa exponent) (positive : 0 < mantissa) :
    max ((mantissa.log2 : Int) + exponent - 52) (-1074) = exponent := by
  obtain ⟨below, least, -, filled⟩ := canonical
  have logBelow : mantissa.log2 < 53 := (Nat.log2_lt (Nat.ne_of_gt positive)).mpr below
  rcases filled with full | leastExponent
  · have logFull : 52 ≤ mantissa.log2 := (Nat.le_log2 (Nat.ne_of_gt positive)).mpr full
    omega
  · omega

theorem nearest_of_canonical (negative : Bool) {mantissa : Nat} {exponent : Int}
    (canonical : IsCanonicalDouble mantissa exponent) (positive : 0 < mantissa) :
    nearest negative (mantissa * 2 ^ exponent.toNat) (2 ^ (-exponent).toNat) =
      .finite negative mantissa exponent canonical := by
  have nonzero : mantissa * 2 ^ exponent.toNat ≠ 0 :=
    Nat.ne_of_gt (Nat.mul_pos positive (Nat.two_pow_pos _))
  have quotient : roundedQuotient (mantissa * 2 ^ exponent.toNat * 2 ^ (-exponent).toNat)
      (2 ^ (-exponent).toNat * 2 ^ exponent.toNat) = mantissa := by
    rw [Nat.mul_assoc, Nat.mul_comm (2 ^ exponent.toNat)]
    apply roundedQuotient_mul_self
    exact Nat.mul_pos (Nat.two_pow_pos _) (Nat.two_pow_pos _)
  simp only [nearest, nonzero, if_false, binaryMagnitude_of_scaled positive,
    binaryExponent_eq canonical positive, Nat.pow_eq, quotient]
  rw [ofMantissa, dif_pos canonical]

/-! ## Signs -/

theorem ofMantissa_true (mantissa : Nat) (exponent : Int) :
    ofMantissa true mantissa exponent = (ofMantissa false mantissa exponent).negated := by
  unfold ofMantissa
  split
  · rfl
  · split <;> rfl

theorem nearest_true (numerator denominator : Nat) :
    nearest true numerator denominator = (nearest false numerator denominator).negated := by
  unfold nearest
  split
  · rfl
  · apply ofMantissa_true

theorem nearestDecimal_true (digits : Nat) (power : Int) :
    nearestDecimal true digits power = (nearestDecimal false digits power).negated := by
  unfold nearestDecimal
  dsimp only
  split
  · rfl
  · split
    · rfl
    · apply nearest_true

end ApiTypes.Double
