import Stencil.Proofs.Modifier.Complements
import Stencil.Proofs.Value.Numerals

namespace Stencil

/-! Comparing integers.

A comparison reads the value and the operand as numbers, each in its own way, and both ways round
an integer to the same number.  Rounding never reverses the order of two integers, so a comparison
is wrong about them only if they are different and become one number.
-/

namespace Registry

open Modifier Binary64

/-- What a test makes of a value: the first text if it holds, otherwise the next one, or the value
itself where there is no other text. -/
def yielded (holds : String) (others : List String) (value : Value) (verdict : Bool) : Value :=
  if verdict then .string holds else (others[0]?.map Value.string).getD value

theorem branch_eq_yielded {test : Value → Option Bool} {value : Value} {verdict : Bool}
    (applies : test value = some verdict) (holds : String) (others : List String) :
    branch holds others[0]? test value = yielded holds others value verdict := by
  rw [branch, applies]
  cases verdict <;> rfl

variable {name text holds : String} {others : List String} {n k : Int}

theorem resolve_numberTest [Regex.Limits] {test : Binary64 → Binary64 → Bool} {x bound : Binary64}
    {value : Value}
    (known : builtin.find? name = some (numberTest test))
    (operand : parseNumber? text.toList = some bound) (input : value.number? = some x) :
    builtin.resolve ⟨name, text :: holds :: others⟩ value =
      some (yielded holds others value (test x bound)) := by
  rw [resolve_of_direct known]
  simp only [List.getElem?_cons_zero, List.getElem?_cons_succ, Option.bind_eq_bind,
    Option.bind_some, operand, Option.pure_def, Option.getD_some]
  rw [branch_eq_yielded]
  rw [input, Option.map_some]

/-- A comparison of integers is the comparison of the numbers nearest to them. -/
theorem resolve_comparison [Regex.Limits] {test : Binary64 → Binary64 → Bool}
    (relation : Int → Int → Prop) [DecidableRel relation]
    (known : builtin.find? name = some (numberTest test))
    (compares : ∀ {x y : Binary64} {m n : Int}, x.Is m → y.Is n → (test x y ↔ relation m n))
    (document : n.natAbs ≤ wordLimit) (operand : k.natAbs ≤ wordLimit)
    (written : DecimalText text.toList k) :
    builtin.resolve ⟨name, text :: holds :: others⟩ (.integer n) =
      some (yielded holds others (.integer n) (relation (rounded n) (rounded k))) := by
  obtain ⟨x, read, isInput⟩ := ofInt?_rounded document
  have input : (Value.integer n).number? = some x := read
  obtain ⟨bound, parsed, isOperand⟩ := parseNumber?_decimal written operand
  have verdict : test x bound = decide (relation (rounded n) (rounded k)) :=
    Bool.eq_iff_iff.mpr ((compares isInput isOperand).trans decide_eq_true_iff.symm)
  rw [resolve_numberTest known parsed input, verdict]

/-- Comparisons read both sides as the numbers nearest to them.  They order integers as they are,
except that different integers which are rounded to one number count as equal.  An integer of at
most 53 bits is never mistaken for another one. -/
theorem integers_compared_rounded [Regex.Limits]
    (document : -9223372036854775808 ≤ n ∧ n ≤ 18446744073709551615)
    (operand : -9223372036854775808 ≤ k ∧ k ≤ 9223372036854775807)
    (written : DecimalText text.toList k) :
    (∃ x, (Value.integer n).number? = some x ∧ x.Is (rounded n) ∧ x.NearestTo n) ∧
      (∃ bound, parseNumber? text.toList = some bound ∧ bound.Is (rounded k) ∧ bound.NearestTo k) ∧
      builtin.resolve ⟨"gt", text :: holds :: others⟩ (.integer n) =
        some (yielded holds others (.integer n) (k < n ∧ rounded k ≠ rounded n)) ∧
      builtin.resolve ⟨"gte", text :: holds :: others⟩ (.integer n) =
        some (yielded holds others (.integer n) (k ≤ n ∨ rounded k = rounded n)) ∧
      builtin.resolve ⟨"lt", text :: holds :: others⟩ (.integer n) =
        some (yielded holds others (.integer n) (n < k ∧ rounded n ≠ rounded k)) ∧
      builtin.resolve ⟨"lte", text :: holds :: others⟩ (.integer n) =
        some (yielded holds others (.integer n) (n ≤ k ∨ rounded n = rounded k)) ∧
      (n.natAbs < 9007199254740992 ∨ k.natAbs < 9007199254740992 →
        (rounded n = rounded k ↔ n = k)) := by
  have word : wordLimit = 18446744073709551616 := by decide
  have inputBounded : n.natAbs ≤ wordLimit := by omega
  have operandBounded : k.natAbs ≤ wordLimit := by omega
  refine ⟨?_, ?_, ?_, ?_, ?_, ?_, ?_⟩
  · obtain ⟨x, read, is⟩ := ofInt?_rounded inputBounded
    exact ⟨x, read, is, is.nearestTo⟩
  · obtain ⟨bound, parsed, is⟩ := parseNumber?_decimal written operandBounded
    exact ⟨bound, parsed, is, is.nearestTo⟩
  · have known : builtin.find? "gt" = some greater := (find?_builtin _).trans rfl
    rw [resolve_comparison (fun n k => k < n) known
      (fun first second => decide_eq_true_iff.trans (second.lt_iff first))
      inputBounded operandBounded written]
    simp only [rounded_lt_iff]
  · have known : builtin.find? "gte" = some greaterOrEqual := (find?_builtin _).trans rfl
    rw [resolve_comparison (fun n k => k ≤ n) known
      (fun first second => decide_eq_true_iff.trans (second.le_iff first))
      inputBounded operandBounded written]
    simp only [rounded_le_iff]
  · have known : builtin.find? "lt" = some less := (find?_builtin _).trans rfl
    rw [resolve_comparison (· < ·) known
      (fun first second => decide_eq_true_iff.trans (first.lt_iff second))
      inputBounded operandBounded written]
    simp only [rounded_lt_iff]
  · have known : builtin.find? "lte" = some lessOrEqual := (find?_builtin _).trans rfl
    rw [resolve_comparison (· ≤ ·) known
      (fun first second => decide_eq_true_iff.trans (first.le_iff second))
      inputBounded operandBounded written]
    simp only [rounded_le_iff]
  · have limit : integerLimit = 9007199254740992 := by decide
    intro small
    refine ⟨fun same => ?_, congrArg rounded⟩
    rcases small with small | small
    · exact (rounded_inj_of_small (limit ▸ small) same.symm).symm
    · exact rounded_inj_of_small (limit ▸ small) same

/-- The largest signed word, written with a sign and a zero in front, and its successor become one
number and count as equal. -/
theorem largest_word_equals_successor :
    let n : Int := 9223372036854775808
    let params := ["+09223372036854775807", "yes", "no"]
    (-9223372036854775808 ≤ n ∧ n ≤ 18446744073709551615) ∧
      (-9223372036854775808 ≤ n - 1 ∧ n - 1 ≤ 9223372036854775807) ∧
      DecimalText "+09223372036854775807".toList (n - 1) ∧
      builtin.resolve ⟨"gt", params⟩ (.integer n) = some (.string "no") ∧
      builtin.resolve ⟨"gte", params⟩ (.integer n) = some (.string "yes") ∧
      builtin.resolve ⟨"lt", params⟩ (.integer n) = some (.string "no") ∧
      builtin.resolve ⟨"lte", params⟩ (.integer n) = some (.string "yes") := by
  intro n params
  have value : digitsValue "09223372036854775807".toList = 9223372036854775807 := by decide +kernel
  have written : DecimalText "+09223372036854775807".toList (n - 1) := by
    have digits : "09223372036854775807".toList.all Char.isDigit = true := by decide +kernel
    have plus := DecimalText.plus (by decide) (List.all_eq_true.mp digits)
    rwa [value] at plus
  have same : rounded n = rounded (n - 1) := by decide +kernel
  obtain ⟨_, _, gt, gte, lt, lte, _⟩ := @integers_compared_rounded "+09223372036854775807" "yes"
    ["no"] n (n - 1) _ (by decide) (by decide) written
  simp only [same, ne_eq, not_true_eq_false, and_false, or_true, decide_true, decide_false]
    at gt gte lt lte
  exact ⟨by decide, by decide, written, gt, gte, lt, lte⟩

/-- The first integer that is no number counts as equal to the one before it. -/
theorem neighbours_not_told_apart :
    (9007199254740992 : Int) < 9007199254740993 ∧
      builtin.resolve ⟨"gt", ["9007199254740992", "more", "not more"]⟩
        (.integer 9007199254740993) = some (.string "not more") := by
  have known : builtin.find? "gt" = some greater := (find?_builtin _).trans rfl
  have written : DecimalText "9007199254740992".toList 9007199254740992 := by
    have text : integerText 9007199254740992 = "9007199254740992".toList := by decide +kernel
    exact text ▸ decimalText_integerText 9007199254740992
  have compared := @resolve_comparison "gt" "9007199254740992" "more" ["not more"]
    9007199254740993 9007199254740992 _ _ (fun n k => k < n) _ known
    (fun first second => decide_eq_true_iff.trans (second.lt_iff first)) (by decide) (by decide)
    written
  have same : rounded 9007199254740993 = rounded 9007199254740992 := by decide +kernel
  rw [same] at compared
  exact ⟨by decide, compared⟩

end Registry

end Stencil
