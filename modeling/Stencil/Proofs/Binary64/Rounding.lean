import Stencil.Binary64.Basic

namespace Stencil

/-! Rounding to 53 significant bits.

The magnitudes of 53 significant bits next to a count are the multiples of its spacing, as far as
the powers of two on both sides.  Rounding takes the nearest of them and so keeps the order of
counts; all that it can do to a comparison is to make different counts equal.
-/

namespace Binary64

variable {a b bound units denominator : Nat}

theorem log2_mono (le : a ≤ b) : a.log2 ≤ b.log2 := by
  by_cases zero : a = 0
  · subst zero
    exact Nat.zero_le _
  · exact (Nat.le_log2 (by omega)).mpr (Nat.le_trans (Nat.log2_self_le zero) le)

theorem spacing_dvd_shift {exponent : Nat} (le : units.log2 ≤ exponent) :
    spacing units ∣ 1 <<< exponent := by
  rw [spacing, Nat.one_shiftLeft, Nat.one_shiftLeft]
  exact Nat.pow_dvd_pow 2 (by omega)

/-- The power of two that starts the range of the counts of one length. -/
theorem shift_log2_le (nonzero : units ≠ 0) : 1 <<< units.log2 ≤ units := by
  rw [Nat.one_shiftLeft]
  exact Nat.log2_self_le nonzero

theorem lt_shift_of_log2_lt {exponent : Nat} (shorter : units.log2 < exponent) :
    units < 1 <<< exponent := by
  rw [Nat.one_shiftLeft]
  exact Nat.lt_of_lt_of_le Nat.lt_log2_self (Nat.pow_le_pow_right (by decide) shorter)

theorem roundHalfEven_mul (quotient : Nat) (positive : 0 < denominator) :
    roundHalfEven (denominator * quotient) denominator = quotient := by
  rw [roundHalfEven, Nat.mul_mod_right, Nat.mul_div_cancel_left _ positive]
  exact if_pos positive

theorem roundHalfEven_mono (denominator : Nat) (le : a ≤ b) :
    roundHalfEven a denominator ≤ roundHalfEven b denominator := by
  have quotients : a / denominator ≤ b / denominator := Nat.div_le_div_right le
  rcases Nat.lt_or_eq_of_le quotients with below | same
  · have := roundHalfEven_le a denominator
    have := le_roundHalfEven b denominator
    omega
  · have remainders : a % denominator ≤ b % denominator := by
      have := Nat.div_add_mod a denominator
      have := Nat.div_add_mod b denominator
      rw [same] at *
      omega
    simp only [roundHalfEven, same]
    grind

/-- No multiple of the denominator is nearer than the one that rounding gives. -/
theorem roundHalfEven_closest (numerator other : Nat) (positive : 0 < denominator) :
    ((denominator * roundHalfEven numerator denominator : Nat) - numerator : Int).natAbs ≤
      ((denominator * other : Nat) - numerator : Int).natAbs := by
  have parts := Nat.div_add_mod numerator denominator
  have remainder := Nat.mod_lt numerator positive
  have above : denominator * (numerator / denominator + 1) =
      denominator * (numerator / denominator) + denominator := Nat.mul_succ _ _
  have side : denominator * other ≤ denominator * (numerator / denominator) ∨
      denominator * (numerator / denominator + 1) ≤ denominator * other := by
    rcases Nat.lt_or_ge (numerator / denominator) other with larger | smaller
    · exact .inr (Nat.mul_le_mul_left _ larger)
    · exact .inl (Nat.mul_le_mul_left _ smaller)
  unfold roundHalfEven
  dsimp only
  split
  · omega
  · split
    · omega
    · rcases Nat.mod_two_eq_zero_or_one (numerator / denominator) with even | odd
      · rw [even, Nat.add_zero]
        omega
      · rw [odd]
        omega

theorem roundHalfEven_mul_right (numerator denominator : Nat) {factor : Nat}
    (positive : 0 < factor) :
    roundHalfEven (numerator * factor) (denominator * factor) =
      roundHalfEven numerator denominator := by
  have twice : 2 * (numerator % denominator * factor) = 2 * (numerator % denominator) * factor :=
    (Nat.mul_assoc _ _ _).symm
  simp only [roundHalfEven, Nat.mul_div_mul_right _ _ positive, Nat.mul_mod_mul_right, twice,
    Nat.mul_lt_mul_right positive]

theorem nearest_one (units : Nat) :
    nearest units 1 = spacing units * roundHalfEven units (spacing units) := by
  rw [nearest, Nat.div_one, Nat.one_mul]

/-- What has few enough significant bits is not rounded. -/
theorem nearest_of_dvd (significant : spacing units ∣ units) : nearest units 1 = units := by
  obtain ⟨significand, whole⟩ := significant
  have exact := roundHalfEven_mul significand (spacing_pos units)
  rw [← whole] at exact
  rw [nearest_one, exact, ← whole]

theorem nearest_le (significant : spacing units ∣ bound) (le : units ≤ bound) :
    nearest units 1 ≤ bound := by
  obtain ⟨significand, rfl⟩ := significant
  have rounded := roundHalfEven_mono (spacing units) le
  rw [roundHalfEven_mul significand (spacing_pos units)] at rounded
  rw [nearest_one]
  exact Nat.mul_le_mul_left _ rounded

theorem le_nearest (significant : spacing units ∣ bound) (le : bound ≤ units) :
    bound ≤ nearest units 1 := by
  obtain ⟨significand, rfl⟩ := significant
  have rounded := roundHalfEven_mono (spacing units) le
  rw [roundHalfEven_mul significand (spacing_pos units)] at rounded
  rw [nearest_one]
  exact Nat.mul_le_mul_left _ rounded

/-- Rounding keeps the order.  Counts of different lengths have a power of two between them. -/
theorem nearest_mono (le : a ≤ b) : nearest a 1 ≤ nearest b 1 := by
  rcases Nat.lt_or_eq_of_le (log2_mono le) with shorter | same
  · have nonzero : b ≠ 0 := by
      rintro rfl
      exact absurd shorter (Nat.not_lt_zero _)
    calc nearest a 1
      _ ≤ 1 <<< b.log2 := nearest_le (spacing_dvd_shift (Nat.le_of_lt shorter))
          (Nat.le_of_lt (lt_shift_of_log2_lt shorter))
      _ ≤ nearest b 1 := le_nearest (spacing_dvd_shift (Nat.le_refl _)) (shift_log2_le nonzero)
  · have spacings : spacing a = spacing b := by rw [spacing, spacing, same]
    rw [nearest_one, nearest_one, spacings]
    exact Nat.mul_le_mul_left _ (roundHalfEven_mono _ le)

/-- No magnitude of 53 significant bits is nearer than the one that rounding gives.  A magnitude
that is no multiple of the spacing lies below the power of two that starts the count's own range. -/
theorem nearest_closest (units : Nat) (significant : spacing bound ∣ bound) :
    ((nearest units 1 : Int) - units).natAbs ≤ ((bound : Int) - units).natAbs := by
  rw [nearest_one]
  rcases Nat.lt_or_ge bound.log2 units.log2 with shorter | long
  · have nonzero : units ≠ 0 := by
      rintro rfl
      exact absurd shorter (Nat.not_lt_zero _)
    obtain ⟨significand, power⟩ := spacing_dvd_shift (Nat.le_refl units.log2)
    have closest := roundHalfEven_closest units significand (spacing_pos units)
    have start := shift_log2_le nonzero
    have below := lt_shift_of_log2_lt shorter
    rw [← power] at closest
    omega
  · have multiple : spacing units ∣ bound := by
      refine Nat.dvd_trans ?_ significant
      rw [spacing, spacing, Nat.one_shiftLeft, Nat.one_shiftLeft]
      exact Nat.pow_dvd_pow 2 (by omega)
    obtain ⟨significand, rfl⟩ := multiple
    exact roundHalfEven_closest units significand (spacing_pos units)

theorem log2_mul_shift (nonzero : units ≠ 0) (exponent : Nat) :
    (units * 1 <<< exponent).log2 = units.log2 + exponent := by
  rw [Nat.one_shiftLeft]
  have positive : 0 < 2 ^ exponent := Nat.two_pow_pos exponent
  refine (Nat.log2_eq_iff (Nat.mul_ne_zero nonzero (Nat.ne_of_gt positive))).mpr ⟨?_, ?_⟩
  · rw [Nat.pow_add]
    exact Nat.mul_le_mul_right _ (Nat.log2_self_le nonzero)
  · rw [Nat.add_right_comm, Nat.pow_add]
    exact Nat.mul_lt_mul_of_pos_right Nat.lt_log2_self positive

/-- Doubling a count that has 53 bits doubles what it is rounded to. -/
theorem nearest_mul_shift (long : 1 <<< 52 ≤ units) (exponent : Nat) :
    nearest (units * 1 <<< exponent) 1 = nearest units 1 * 1 <<< exponent := by
  have nonzero : units ≠ 0 := Nat.ne_of_gt (Nat.lt_of_lt_of_le (by decide) long)
  have length : 52 ≤ units.log2 := by
    rw [Nat.one_shiftLeft] at long
    exact (Nat.le_log2 nonzero).mpr long
  have positive : 0 < 1 <<< exponent := by
    rw [Nat.one_shiftLeft]
    exact Nat.two_pow_pos exponent
  have scaled : spacing (units * 1 <<< exponent) = spacing units * 1 <<< exponent := by
    rw [spacing, log2_mul_shift nonzero, spacing, Nat.one_shiftLeft, Nat.one_shiftLeft,
      Nat.one_shiftLeft, ← Nat.pow_add, Nat.sub_add_comm length]
  rw [nearest_one, nearest_one, scaled, roundHalfEven_mul_right _ _ positive, Nat.mul_right_comm]

end Binary64

end Stencil
