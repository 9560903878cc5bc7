import Stencil.Proofs.Value.Numerals

namespace Stencil

/-! The form of computed numbers.

A computed number becomes an integer if it is one and lies below the bound in magnitude.  All other
numbers stay doubles, and their texts show it by a point or an exponent.
-/

namespace Binary64

theorem layout_marked (digits : List Char) (leading : Int) :
    '.' ∈ layout digits leading ∨ 'e' ∈ layout digits leading := by
  unfold layout
  split
  · exact .inl (by simp)
  · split
    · exact .inl (by simp)
    · exact .inr (by simp)

/-- The text of a double has a point or an exponent. -/
theorem text_marked (x : Binary64) : '.' ∈ x.text ∨ 'e' ∈ x.text := by
  unfold text
  extract_lets decimal places body
  have marked : '.' ∈ body ∨ 'e' ∈ body := by
    unfold body
    split
    · exact .inl (by simp)
    · exact layout_marked _ _
  split
  · exact marked.imp (List.mem_cons_of_mem _) (List.mem_cons_of_mem _)
  · exact marked

end Binary64

theorem integerText_unmarked (n : Int) : ¬ ('.' ∈ integerText n ∨ 'e' ∈ integerText n) := by
  rintro (point | exponent)
  · exact absurd (isDigit_of_mem_integerText point (by decide)) (by decide)
  · exact absurd (isDigit_of_mem_integerText exponent (by decide)) (by decide)

namespace Value

variable {x : Binary64} {n : Int}

theorem ofBinary64_cases (x : Binary64) :
    (∃ n, ofBinary64 x = .integer n) ∨ ofBinary64 x = .number (.double x) := by
  rw [ofBinary64]
  split
  · exact .inl ⟨_, rfl⟩
  · exact .inr rfl

theorem ofBinary64_eq_integer_iff :
    ofBinary64 x = .integer n ↔ x.Is n ∧ n.natAbs < integralBound := by
  constructor
  · intro made
    rw [ofBinary64] at made
    split at made
    · next integral =>
        have is := Binary64.is_floor integral.1
        have below := integral.2
        cases made
        rw [is.units_eq] at below
        exact ⟨is, Nat.lt_of_mul_lt_mul_right below⟩
    · cases made
  · rintro ⟨is, below⟩
    exact ofBinary64_integer is below

theorem ofBinary64_eq_double_iff :
    ofBinary64 x = .number (.double x) ↔ ∀ n : Int, x.Is n → integralBound ≤ n.natAbs := by
  constructor
  · intro double n is
    refine Nat.le_of_not_lt fun below => ?_
    have made := ofBinary64_integer is below
    rw [double] at made
    cases made
  · intro large
    rcases ofBinary64_cases x with integer | double
    · obtain ⟨n, made⟩ := integer
      obtain ⟨is, below⟩ := ofBinary64_eq_integer_iff.mp made
      exact absurd (large n is) (Nat.not_le.mpr below)
    · exact double

theorem ofBinary64_marked_iff :
    ofBinary64 x = .number (.double x) ↔
      '.' ∈ (ofBinary64 x).text ∨ 'e' ∈ (ofBinary64 x).text := by
  rcases ofBinary64_cases x with integer | double
  · obtain ⟨n, made⟩ := integer
    rw [made]
    exact iff_of_false nofun (integerText_unmarked n)
  · rw [double]
    exact iff_of_true rfl (Binary64.text_marked x)

/-- A computed number becomes a value if it is finite.  The value is an integer exactly if the
number is one and lies below nine quadrillion in magnitude.  Every other number stays the double
that it is, and its text shows this by a point or an exponent. -/
theorem computed_value_form :
    (∀ reading, ofReading? reading = none ↔ ∀ x, reading ≠ .finite x) ∧
      ∀ x : Binary64, ∃ value, ofReading? (.finite x) = some value ∧
        (∀ n : Int, value = .integer n ↔ x.Is n ∧ n.natAbs < 9000000000000000) ∧
        (value = .number (.double x) ↔ ∀ n : Int, x.Is n → 9000000000000000 ≤ n.natAbs) ∧
        (value = .number (.double x) ↔ '.' ∈ value.text ∨ 'e' ∈ value.text) := by
  refine ⟨fun reading => ?_, fun x => ⟨ofBinary64 x, rfl, fun n => ofBinary64_eq_integer_iff,
    ofBinary64_eq_double_iff, ofBinary64_marked_iff⟩⟩
  cases reading with
  | finite x => exact iff_of_false nofun fun never => never x rfl
  | infinite negative => exact iff_of_true rfl fun x => nofun
  | notANumber => exact iff_of_true rfl fun x => nofun

/-- Nine quadrillion is an integer in the range of signed words, but stays a double. -/
theorem bound_stays_double :
    let n : Int := 9000000000000000
    (-9223372036854775808 ≤ n ∧ n ≤ 9223372036854775807) ∧
      ∃ x, Binary64.ofInt? n = some x ∧ x.Is n ∧ ofBinary64 x ≠ .integer n ∧
        (ofBinary64 x).text = "9000000000000000.0".toList := by
  intro n
  obtain ⟨x, made, is⟩ := @Binary64.ofInt?_integer 9000000000000000 (by decide)
  have double : ofBinary64 x = .number (.double x) := by
    refine ofBinary64_eq_double_iff.mpr fun n other => ?_
    rw [is.unique other]
    exact Nat.le_refl _
  have written : (Binary64.ofInt? 9000000000000000).map Binary64.text =
      some "9000000000000000.0".toList := by
    decide +kernel
  rw [made, Option.map_some] at written
  refine ⟨by decide, x, made, is, ?_, ?_⟩
  · rw [double]
    nofun
  · rw [double]
    exact Option.some.inj written

end Value

end Stencil
