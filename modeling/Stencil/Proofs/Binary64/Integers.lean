import Stencil.Proofs.Binary64.Rounding
import Stencil.Value.Numeric

namespace Stencil

/-! Integers among the numbers.

The number nearest to an integer is the integer to 53 significant bits.  Every integer of at most 53
bits is a number, so an operation whose exact result is such an integer needs no rounding.
-/

namespace Binary64

/-- Up to this magnitude every integer is a number. -/
def integerLimit : Nat := 1 <<< 53

/-- No integer of a document has a larger magnitude. -/
def wordLimit : Nat := 1 <<< 64

/-- The number is the integer; zero may have either sign. -/
def Is (x : Binary64) (n : Int) : Prop :=
  x.signedUnits = n * one

/-- The integer to 53 significant bits: the nearest such integer, a tie going to the even one. -/
def rounded (n : Int) : Int :=
  if n < 0 then -(nearest n.natAbs 1 : Int) else nearest n.natAbs 1

variable {x y : Binary64} {m n : Int} {magnitude : Nat}

theorem one_pos : 0 < one := by decide

theorem Is.lt_iff (first : x.Is m) (second : y.Is n) : x < y ↔ m < n := by
  change x.signedUnits < y.signedUnits ↔ m < n
  rw [first, second]
  exact Int.mul_lt_mul_right (Int.natCast_pos.mpr one_pos)

theorem Is.le_iff (first : x.Is m) (second : y.Is n) : x ≤ y ↔ m ≤ n := by
  change x.signedUnits ≤ y.signedUnits ↔ m ≤ n
  rw [first, second]
  exact Int.mul_le_mul_right (Int.natCast_pos.mpr one_pos)

theorem Is.unique (first : x.Is m) (second : x.Is n) : n = m := by
  have unit : (one : Int) ≠ 0 := Int.natCast_ne_zero.mpr (Nat.ne_of_gt one_pos)
  exact Int.eq_of_mul_eq_mul_right unit (second.symm.trans first)

theorem nearest_zero : nearest 0 1 = 0 :=
  nearest_of_dvd (Nat.dvd_zero _)

theorem rounded_signed (negative : Bool) (magnitude : Nat) :
    rounded (if negative then -magnitude else magnitude) =
      if negative then -(nearest magnitude 1 : Int) else nearest magnitude 1 := by
  cases negative with
  | false =>
      rw [rounded, if_neg Bool.false_ne_true, if_neg Bool.false_ne_true, if_neg (by omega),
        Int.natAbs_natCast]
  | true =>
      rw [rounded, if_pos rfl, if_pos rfl, Int.natAbs_neg, Int.natAbs_natCast]
      rcases Nat.eq_zero_or_pos magnitude with rfl | positive
      · rw [nearest_zero]
        rfl
      · exact if_pos (by omega)

theorem rounded_mono (le : m ≤ n) : rounded m ≤ rounded n := by
  simp only [rounded]
  split
  · split
    · have := @nearest_mono n.natAbs m.natAbs (by omega)
      omega
    · omega
  · rw [if_neg (by omega)]
    exact Int.ofNat_le.mpr (nearest_mono (by omega))

theorem rounded_le_iff : rounded m ≤ rounded n ↔ m ≤ n ∨ rounded m = rounded n := by
  constructor
  · intro le
    by_cases ordered : m ≤ n
    · exact .inl ordered
    · exact .inr (Int.le_antisymm le (rounded_mono (Int.le_of_lt (Int.not_le.mp ordered))))
  · rintro (ordered | same)
    · exact rounded_mono ordered
    · exact Int.le_of_eq same

theorem rounded_lt_iff : rounded m < rounded n ↔ m < n ∧ rounded m ≠ rounded n := by
  rw [← Int.not_le, rounded_le_iff, not_or, Int.not_le, ne_comm]

theorem spacing_dvd_of_small (small : magnitude ≤ integerLimit) :
    spacing magnitude ∣ magnitude := by
  have scaled := @spacing_dvd_of_scaled 0 magnitude small
  rwa [Nat.one_shiftLeft, Nat.pow_zero, Nat.one_mul] at scaled

theorem rounded_of_small (small : n.natAbs ≤ integerLimit) : rounded n = n := by
  rw [rounded, nearest_of_dvd (spacing_dvd_of_small small)]
  split <;> omega

/-- An integer of at most 53 bits is told from every other integer. -/
theorem rounded_inj_of_small (small : n.natAbs < integerLimit) (same : rounded m = rounded n) :
    m = n := by
  have kept : rounded n = n := rounded_of_small (Nat.le_of_lt small)
  rcases Int.lt_trichotomy m n with below | equal | above
  · have := @rounded_mono m (n - 1) (by omega)
    have : rounded (n - 1) = n - 1 := rounded_of_small (by omega)
    omega
  · exact equal
  · have := @rounded_mono (n + 1) m (by omega)
    have : rounded (n + 1) = n + 1 := rounded_of_small (by omega)
    omega

theorem ofUnits?_of_nearest (negative : Bool) {numerator result : Nat}
    (exact : nearest numerator 1 = result) (finite : result < limit) :
    ∃ x, ofUnits? negative numerator 1 = some x ∧
      x.signedUnits = if negative then -(result : Int) else result := by
  subst exact
  exact ⟨_, dif_pos finite, rfl⟩

theorem spacing_dvd_integer (small : magnitude ≤ integerLimit) :
    spacing (magnitude * one) ∣ magnitude * one := by
  rw [Nat.mul_comm]
  exact spacing_dvd_of_scaled small

/-- An integer is rounded in the same way whether it is counted in ones or in units. -/
theorem nearest_mul_one (magnitude : Nat) :
    nearest (magnitude * one) 1 = nearest magnitude 1 * one := by
  rcases Nat.le_total magnitude integerLimit with small | large
  · rw [nearest_of_dvd (spacing_dvd_integer small), nearest_of_dvd (spacing_dvd_of_small small)]
  · exact nearest_mul_shift (Nat.le_trans (by decide) large) 1074

/-- No number is nearer to the integer. -/
def NearestTo (x : Binary64) (n : Int) : Prop :=
  ∀ y : Binary64, (x.signedUnits - n * one).natAbs ≤ (y.signedUnits - n * one).natAbs

theorem natAbs_signedUnits (x : Binary64) : x.signedUnits.natAbs = x.units := by
  rw [signedUnits]
  split <;> simp

theorem Is.nearestTo (is : x.Is (rounded n)) : x.NearestTo n := by
  intro y
  have closest := nearest_closest (n.natAbs * one) y.significant
  have zero := nearest_closest (n.natAbs * one) (Nat.dvd_zero (spacing 0))
  rw [nearest_mul_one, ← natAbs_signedUnits] at closest
  rw [nearest_mul_one] at zero
  rw [is, rounded]
  by_cases negative : n < 0
  · have magnitude : n * one = -((n.natAbs * one : Nat) : Int) := by
      rw [Int.natCast_mul, Int.ofNat_natAbs_of_nonpos (Int.le_of_lt negative), Int.neg_mul,
        Int.neg_neg]
    rw [if_pos negative, magnitude, Int.neg_mul, ← Int.natCast_mul]
    omega
  · have magnitude : n * one = ((n.natAbs * one : Nat) : Int) := by
      rw [Int.natCast_mul, Int.natAbs_of_nonneg (Int.not_lt.mp negative)]
    rw [if_neg negative, magnitude, ← Int.natCast_mul]
    omega

theorem nearest_lt_limit (bounded : magnitude ≤ wordLimit) : nearest magnitude 1 * one < limit := by
  have short : magnitude.log2 ≤ 64 := Nat.le_trans (log2_mono bounded) (by decide)
  have below : nearest magnitude 1 ≤ wordLimit := nearest_le (spacing_dvd_shift short) bounded
  have bound : wordLimit * one < limit := by decide
  exact Nat.lt_of_le_of_lt (Nat.mul_le_mul_right one below) bound

theorem ofUnits?_rounded (negative : Bool) (bounded : magnitude ≤ wordLimit) :
    ∃ x, ofUnits? negative (magnitude * one) 1 = some x ∧
      x.Is (rounded (if negative then -magnitude else magnitude)) := by
  obtain ⟨x, made, units⟩ :=
    ofUnits?_of_nearest negative (nearest_mul_one magnitude) (nearest_lt_limit bounded)
  refine ⟨x, made, ?_⟩
  rw [Is, units, rounded_signed]
  cases negative with
  | false => simp
  | true => rw [if_pos rfl, if_pos rfl, Int.natCast_mul, Int.neg_mul]

/-- The sign of a count of units other than zero is that of the integer. -/
theorem ofSignedUnits?_rounded (zeroSign : Bool) (bounded : n.natAbs ≤ wordLimit) :
    ∃ x, ofSignedUnits? zeroSign (n * one) = some x ∧ x.Is (rounded n) := by
  have unit : (0 : Int) < one := Int.natCast_pos.mpr one_pos
  have magnitude : (n * one).natAbs = n.natAbs * one := Int.natAbs_mul n one
  rw [ofSignedUnits?, magnitude]
  rcases Int.lt_trichotomy n 0 with negative | rfl | positive
  · have below : n * one < 0 := Int.mul_neg_of_neg_of_pos negative unit
    rw [if_neg (Int.ne_of_lt below), decide_eq_true below]
    obtain ⟨x, made, is⟩ := ofUnits?_rounded true bounded
    rw [if_pos rfl, Int.ofNat_natAbs_of_nonpos (Int.le_of_lt negative), Int.neg_neg] at is
    exact ⟨x, made, is⟩
  · rw [Int.zero_mul, if_pos rfl]
    obtain ⟨x, made, is⟩ := ofUnits?_rounded zeroSign bounded
    refine ⟨x, made, ?_⟩
    cases zeroSign <;> exact is
  · have above : 0 < n * one := Int.mul_pos positive unit
    rw [if_neg (Int.ne_of_gt above), decide_eq_false (Int.not_lt.mpr (Int.le_of_lt above))]
    obtain ⟨x, made, is⟩ := ofUnits?_rounded false bounded
    rw [if_neg Bool.false_ne_true, Int.natAbs_of_nonneg (Int.le_of_lt positive)] at is
    exact ⟨x, made, is⟩

theorem ofInt?_rounded (bounded : n.natAbs ≤ wordLimit) :
    ∃ x, ofInt? n = some x ∧ x.Is (rounded n) :=
  ofSignedUnits?_rounded false bounded

theorem ofSignedUnits?_integer (zeroSign : Bool) (small : n.natAbs ≤ integerLimit) :
    ∃ x, ofSignedUnits? zeroSign (n * one) = some x ∧ x.Is n := by
  have made := ofSignedUnits?_rounded zeroSign (Nat.le_trans small (by decide))
  rwa [rounded_of_small small] at made

theorem ofInt?_integer (small : n.natAbs ≤ integerLimit) :
    ∃ x, ofInt? n = some x ∧ x.Is n :=
  ofSignedUnits?_integer false small

theorem add?_integer (first : x.Is m) (second : y.Is n) (small : (m + n).natAbs ≤ integerLimit) :
    ∃ sum, x.add? y = some sum ∧ sum.Is (m + n) := by
  have units : x.signedUnits + y.signedUnits = (m + n) * one := by
    rw [first, second, Int.add_mul]
  rw [add?, units]
  exact ofSignedUnits?_integer _ small

theorem Is.neg (is : x.Is n) : x.neg.Is (-n) := by
  rw [Is, signedUnits] at is ⊢
  rw [Int.neg_mul, ← is]
  cases sign : x.negative <;> simp [Binary64.neg, sign]

theorem sub?_integer (first : x.Is m) (second : y.Is n) (small : (m - n).natAbs ≤ integerLimit) :
    ∃ difference, x.sub? y = some difference ∧ difference.Is (m - n) :=
  add?_integer first second.neg small

theorem Is.units_eq (is : x.Is n) : x.units = n.natAbs * one := by
  rw [← natAbs_signedUnits, is]
  exact Int.natAbs_mul n one

theorem Is.isIntegral (is : x.Is n) : x.isIntegral = true := by
  rw [Binary64.isIntegral, is.units_eq, Nat.mul_mod_left]
  rfl

theorem Is.floor_eq (is : x.Is n) : x.floor = n := by
  rw [floor, is]
  exact Int.mul_ediv_cancel n (Int.natCast_ne_zero.mpr (Nat.ne_of_gt one_pos))

theorem is_floor (integral : x.isIntegral = true) : x.Is x.floor := by
  have whole : (one : Int) ∣ x.signedUnits := by
    rw [← Int.dvd_natAbs, natAbs_signedUnits, Int.natCast_dvd_natCast]
    exact Nat.dvd_of_mod_eq_zero (eq_of_beq integral)
  exact (Int.ediv_mul_cancel whole).symm

end Binary64

/-- A computed integer below the bound is given as an integer. -/
theorem Value.ofBinary64_integer {x : Binary64} {n : Int} (is : x.Is n)
    (below : n.natAbs < integralBound) : ofBinary64 x = .integer n := by
  have bounded : x.units < integralBound * Binary64.one := by
    rw [is.units_eq]
    exact Nat.mul_lt_mul_of_pos_right below Binary64.one_pos
  rw [ofBinary64, if_pos ⟨is.isIntegral, bounded⟩, is.floor_eq]

end Stencil
