namespace Stencil

/-! Finite binary64 numbers as exact integers.

Every finite binary64 number is a whole number of units of `2⁻¹⁰⁷⁴`.  A number is stored as a sign
and such a count, so that comparison is comparison of integers, and an arithmetic operation is the
exact operation followed by one rounding (`Binary64.nearest`).
-/

namespace Binary64

/-- The number of units in 1. -/
def one : Nat := 1 <<< 1074

/-- The number of units in the first magnitude that is too large. -/
def limit : Nat := 1 <<< 2098

def tenTo (places : Nat) : Nat := Nat.pow 10 places

/-- The distance between neighbouring magnitudes from `units` upwards: 53 bits are significant. -/
def spacing (units : Nat) : Nat := 1 <<< (units.log2 - 52)

/-- The quotient rounded to the nearest integer, a tie going to the even one. -/
def roundHalfEven (numerator denominator : Nat) : Nat :=
  let quotient := numerator / denominator
  let remainder := numerator % denominator
  if 2 * remainder < denominator then quotient
  else if denominator < 2 * remainder then quotient + 1
  else quotient + quotient % 2

/-- The magnitude nearest to the given number of units, a tie going to the even one. -/
def nearest (numerator denominator : Nat) : Nat :=
  let step := spacing (numerator / denominator)
  step * roundHalfEven numerator (denominator * step)

theorem spacing_pos (units : Nat) : 0 < spacing units := by
  rw [spacing, Nat.one_shiftLeft]
  exact Nat.two_pow_pos _

theorem le_roundHalfEven (numerator denominator : Nat) :
    numerator / denominator ≤ roundHalfEven numerator denominator := by
  unfold roundHalfEven
  dsimp only
  split
  · exact Nat.le_refl _
  · split <;> omega

theorem roundHalfEven_le (numerator denominator : Nat) :
    roundHalfEven numerator denominator ≤ numerator / denominator + 1 := by
  unfold roundHalfEven
  dsimp only
  split
  · omega
  · split <;> omega

/-- A count with at most 53 significant bits is a multiple of its own spacing. -/
theorem spacing_dvd_of_scaled {exponent significand : Nat} (fits : significand ≤ 1 <<< 53) :
    spacing (1 <<< exponent * significand) ∣ 1 <<< exponent * significand := by
  rw [Nat.one_shiftLeft] at *
  by_cases zero : significand = 0
  · simp [zero]
  have nonzero : 2 ^ exponent * significand ≠ 0 :=
    Nat.mul_ne_zero (Nat.ne_of_gt (Nat.two_pow_pos _)) zero
  by_cases top : significand = 2 ^ 53
  · subst top
    rw [← Nat.pow_add, spacing, Nat.one_shiftLeft, Nat.log2_two_pow]
    exact Nat.pow_dvd_pow 2 (by omega)
  · have below : significand < 2 ^ 53 := by omega
    have bound : 2 ^ exponent * significand < 2 ^ (exponent + 53) := by
      rw [Nat.pow_add]
      exact Nat.mul_lt_mul_of_pos_left below (Nat.two_pow_pos _)
    have logBound := (Nat.log2_lt nonzero).mpr bound
    rw [spacing, Nat.one_shiftLeft]
    exact Nat.dvd_trans (Nat.pow_dvd_pow 2 (by omega)) (Nat.dvd_mul_right _ _)

theorem spacing_dvd_nearest (numerator denominator : Nat) :
    spacing (nearest numerator denominator) ∣ nearest numerator denominator := by
  have small : roundHalfEven numerator
      (denominator * spacing (numerator / denominator)) ≤ 1 <<< 53 := by
    refine Nat.le_trans (roundHalfEven_le _ _) ?_
    rw [← Nat.div_div_eq_div_mul]
    generalize numerator / denominator = quotient
    by_cases zero : quotient = 0
    · simp [zero]
    have upper : quotient < 2 ^ (quotient.log2 + 1) := Nat.lt_log2_self
    have fits : 2 ^ (quotient.log2 + 1) ≤ 1 <<< 53 * spacing quotient := by
      rw [spacing, Nat.one_shiftLeft, Nat.one_shiftLeft, ← Nat.pow_add]
      exact Nat.pow_le_pow_right (by decide) (by omega)
    exact (Nat.div_lt_iff_lt_mul (spacing_pos _)).mpr (by omega)
  exact spacing_dvd_of_scaled small

end Binary64

/-- A finite binary64 number: a sign and a number of units with at most 53 significant bits. -/
structure Binary64 where
  negative : Bool
  units : Nat
  significant : Binary64.spacing units ∣ units
  finite : units < Binary64.limit
deriving DecidableEq

namespace Binary64

/-- The number nearest to a quotient of units, unless it is too large. -/
def ofUnits? (negative : Bool) (numerator denominator : Nat) : Option Binary64 :=
  if finite : nearest numerator denominator < limit then
    some ⟨negative, nearest numerator denominator, spacing_dvd_nearest _ _, finite⟩
  else none

/-- The number of units with its sign; both zeros give 0. -/
def signedUnits (x : Binary64) : Int :=
  if x.negative then -(x.units : Int) else x.units

/-- The number nearest to an exact signed count of units; `zeroSign` is the sign of zero. -/
def ofSignedUnits? (zeroSign : Bool) (units : Int) : Option Binary64 :=
  ofUnits? (if units = 0 then zeroSign else decide (units < 0)) units.natAbs 1

def ofInt? (n : Int) : Option Binary64 :=
  ofSignedUnits? false (n * one)

def isZero (x : Binary64) : Bool :=
  x.units == 0

/-- A zero sum is negative only if both terms are negative. -/
def add? (x y : Binary64) : Option Binary64 :=
  ofSignedUnits? (x.negative && y.negative) (x.signedUnits + y.signedUnits)

def neg (x : Binary64) : Binary64 :=
  { x with negative := !x.negative }

def sub? (x y : Binary64) : Option Binary64 :=
  x.add? y.neg

def mul? (x y : Binary64) : Option Binary64 :=
  ofUnits? (x.negative != y.negative) (x.units * y.units) one

/-- There is no quotient by zero. -/
def div? (x y : Binary64) : Option Binary64 :=
  if y.isZero then none
  else ofUnits? (x.negative != y.negative) (x.units * one) y.units

/-- The greatest integer that is not greater. -/
def floor (x : Binary64) : Int :=
  x.signedUnits / one

/-- The greatest integral number that is not greater. -/
def floor? (x : Binary64) : Option Binary64 :=
  ofSignedUnits? x.negative (x.signedUnits / one * one)

/-- The least integral number that is not smaller. -/
def ceil? (x : Binary64) : Option Binary64 :=
  ofSignedUnits? x.negative (-(-x.signedUnits / one) * one)

/-- The nearest integral number, a tie going away from zero. -/
def round? (x : Binary64) : Option Binary64 :=
  ofUnits? x.negative ((2 * x.units + one) / (2 * one) * one) 1

def isIntegral (x : Binary64) : Bool :=
  x.units % one == 0

instance : LE Binary64 where
  le x y := x.signedUnits ≤ y.signedUnits

instance : LT Binary64 where
  lt x y := x.signedUnits < y.signedUnits

instance (x y : Binary64) : Decidable (x ≤ y) :=
  inferInstanceAs (Decidable (x.signedUnits ≤ y.signedUnits))

instance (x y : Binary64) : Decidable (x < y) :=
  inferInstanceAs (Decidable (x.signedUnits < y.signedUnits))

end Binary64

end Stencil
