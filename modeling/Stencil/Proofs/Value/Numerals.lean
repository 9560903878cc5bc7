import Stencil.Proofs.Binary64.Integers
import Stencil.Proofs.Text.Units
import Stencil.Value.Text

namespace Stencil

/-! Reading the texts of integers.

The digits that an integer is written with are read as the same integer, and then rounded to the
number nearest to it.
-/

namespace Unicode

theorem trim_of_solid {text : List Char} (solid : ∀ c ∈ text, isWhiteSpace c = false) :
    trim text = text := by
  have start : trimStart text = text := by
    cases text with
    | nil => rfl
    | cons c rest => simp [trimStart, solid c]
  rw [trim, start]
  rcases List.eq_nil_or_concat text with rfl | ⟨front, last, rfl⟩
  · rfl
  · rw [List.concat_eq_append]
    exact Text.trimEnd_append (solid last (by simp)) front

theorem isWhiteSpace_of_isDigit {c : Char} (digit : c.isDigit = true) : isWhiteSpace c = false := by
  have bounds := Bool.and_eq_true_iff.mp digit
  have low : 48 ≤ c.toNat := of_decide_eq_true bounds.1
  have high : c.toNat ≤ 57 := of_decide_eq_true bounds.2
  have apart : ∀ code ∈ whiteSpaceRanges.flatMap fun range =>
      List.range' range.1 (range.2 + 1 - range.1), code < 48 ∨ 57 < code := by
    decide
  cases white : isWhiteSpace c with
  | false => rfl
  | true =>
      have := apart c.toNat (Text.mem_codes_of_inRanges white)
      omega

end Unicode

namespace Binary64

theorem digitsValue_toDigits (n : Nat) : digitsValue (Nat.toDigits 10 n) = n := by
  rw [digitsValue, ← Nat.ofDigitChars_eq_foldl]
  exact Nat.ofDigitChars_ten_toDigits

theorem ofDecimal?_integer (negative : Bool) {magnitude : Nat} (bounded : magnitude ≤ wordLimit) :
    ofDecimal? negative magnitude 0 = ofUnits? negative (magnitude * one) 1 := by
  have places : (Nat.toDigits 10 magnitude).length ≤ 20 := by
    rw [Nat.length_toDigits_le_iff (by decide) (by decide)]
    exact Nat.lt_of_le_of_lt bounded (by decide)
  rw [ofDecimal?]
  by_cases zero : magnitude = 0
  · simp [zero]
  · rw [if_neg zero, if_neg (by omega), if_neg (by omega), if_neg (by decide)]
    exact congrArg (ofUnits? negative · 1) (Nat.mul_one _)

theorem toLower_of_isDigit {c : Char} (digit : c.isDigit = true) : c.toLower = c := by
  refine dif_neg ?_
  rintro ⟨capital, _⟩
  have high : c.val ≤ 57 := of_decide_eq_true (Bool.and_eq_true_iff.mp digit).2
  exact absurd (UInt32.le_trans capital high) (by decide)

/-- Digits behind a sign are a numeral without a fraction and without an exponent. -/
theorem readFinite?_digits {text digits : List Char} {negative : Bool} {x : Binary64}
    (signed : readSign text = (negative, digits)) (nonempty : digits ≠ [])
    (all : ∀ c ∈ digits, c.isDigit = true)
    (made : ofDecimal? negative (digitsValue digits) 0 = some x) : readFinite? text = some x := by
  have lowered : digits.map Char.toLower = digits := by
    rw [List.map_congr_left fun c member => toLower_of_isDigit (all c member), List.map_id']
  have noWord {letter : Char} {rest : List Char} (other : letter.isDigit = false) :
      digits ≠ letter :: rest := by
    rintro rfl
    rw [all letter List.mem_cons_self] at other
    cases other
  have whole : digits.takeWhile Char.isDigit = digits := List.takeWhile_eq_self_iff.mpr all
  have nothing : digits.dropWhile Char.isDigit = [] := List.dropWhile_eq_nil_iff.mpr all
  have notInfinite : ¬ (digits = "inf".toList ∨ digits = "infinity".toList) :=
    not_or.mpr ⟨noWord rfl, noWord rfl⟩
  have isNumber : digits ≠ "nan".toList := noWord rfl
  simp only [readFinite?, read?, signed, lowered, if_neg notInfinite, if_neg isNumber, whole, nothing,
    List.append_nil]
  simp [nonempty, readExponent?, made]

theorem readSign_digits {digits : List Char} (all : ∀ c ∈ digits, c.isDigit = true) :
    readSign digits = (false, digits) := by
  unfold readSign
  split
  · next rest => exact absurd (all '-' List.mem_cons_self) (by decide)
  · next rest => exact absurd (all '+' List.mem_cons_self) (by decide)
  · rfl

end Binary64

theorem isDigit_of_mem_toDigits {n : Nat} {c : Char} (member : c ∈ Nat.toDigits 10 n) :
    c.isDigit = true :=
  Nat.isDigit_of_mem_toDigits (by decide) (by decide) member

theorem isDigit_of_mem_integerText {n : Int} {c : Char} (member : c ∈ integerText n)
    (unsigned : c ≠ '-') : c.isDigit = true := by
  rw [integerText] at member
  split at member
  · rcases List.mem_cons.mp member with same | digit
    · exact absurd same unsigned
    · exact isDigit_of_mem_toDigits digit
  · exact isDigit_of_mem_toDigits member

/-- The texts that write an integer: its decimal digits, with or without zeros in front, and a sign
that may be left out unless it is a minus. -/
inductive DecimalText : List Char → Int → Prop where
  | unsigned {digits : List Char} : digits ≠ [] → (∀ c ∈ digits, c.isDigit = true) →
      DecimalText digits (Binary64.digitsValue digits)
  | plus {digits : List Char} : digits ≠ [] → (∀ c ∈ digits, c.isDigit = true) →
      DecimalText ('+' :: digits) (Binary64.digitsValue digits)
  | minus {digits : List Char} : digits ≠ [] → (∀ c ∈ digits, c.isDigit = true) →
      DecimalText ('-' :: digits) (-Binary64.digitsValue digits)

namespace DecimalText

variable {text : List Char} {n : Int}

/-- The sign and the digits of an integer's text. -/
theorem read (written : DecimalText text n) :
    ∃ negative digits, Binary64.readSign text = (negative, digits) ∧ digits ≠ [] ∧
      (∀ c ∈ digits, c.isDigit = true) ∧
      n = if negative then -(Binary64.digitsValue digits : Int)
        else Binary64.digitsValue digits := by
  cases written with
  | unsigned nonempty all => exact ⟨false, text, Binary64.readSign_digits all, nonempty, all, rfl⟩
  | plus nonempty all => exact ⟨false, _, rfl, nonempty, all, rfl⟩
  | minus nonempty all => exact ⟨true, _, rfl, nonempty, all, rfl⟩

theorem solid (written : DecimalText text n) : ∀ c ∈ text, Unicode.isWhiteSpace c = false := by
  cases written with
  | unsigned _ all => exact fun c member => Unicode.isWhiteSpace_of_isDigit (all c member)
  | plus _ all =>
      rw [List.forall_mem_cons]
      exact ⟨by decide, fun c member => Unicode.isWhiteSpace_of_isDigit (all c member)⟩
  | minus _ all =>
      rw [List.forall_mem_cons]
      exact ⟨by decide, fun c member => Unicode.isWhiteSpace_of_isDigit (all c member)⟩

end DecimalText

/-- An integer is written with a sign only if it is negative. -/
theorem decimalText_integerText (n : Int) : DecimalText (integerText n) n := by
  have digits : ∀ c ∈ Nat.toDigits 10 n.natAbs, c.isDigit = true := fun c =>
    isDigit_of_mem_toDigits
  rw [integerText]
  split
  · next negative =>
      have written := DecimalText.minus Nat.toDigits_ne_nil digits
      rwa [Binary64.digitsValue_toDigits, Int.ofNat_natAbs_of_nonpos (Int.le_of_lt negative),
        Int.neg_neg] at written
  · next nonnegative =>
      have written := DecimalText.unsigned Nat.toDigits_ne_nil digits
      rwa [Binary64.digitsValue_toDigits, Int.natAbs_of_nonneg (Int.not_lt.mp nonnegative)]
        at written

/-- The text of an integer is a numeral, and it is rounded just as the integer itself. -/
theorem parseNumber?_decimal {text : List Char} {n : Int} (written : DecimalText text n)
    (bounded : n.natAbs ≤ Binary64.wordLimit) :
    ∃ x, parseNumber? text = some x ∧ x.Is (Binary64.rounded n) := by
  have trimmed := Unicode.trim_of_solid written.solid
  obtain ⟨negative, digits, signed, nonempty, all, rfl⟩ := written.read
  replace bounded : Binary64.digitsValue digits ≤ Binary64.wordLimit := by
    cases negative <;> simpa using bounded
  obtain ⟨x, made, is⟩ := Binary64.ofUnits?_rounded negative bounded
  refine ⟨x, ?_, is⟩
  rw [parseNumber?, trimmed]
  refine Binary64.readFinite?_digits signed nonempty all ?_
  rw [Binary64.ofDecimal?_integer _ bounded, made]

/-- The text of an integer that is a number is a numeral of just this number. -/
theorem parseNumber?_integerText {n : Int} (small : n.natAbs ≤ Binary64.integerLimit) :
    ∃ x, parseNumber? (integerText n) = some x ∧ x.Is n := by
  have parsed := parseNumber?_decimal (decimalText_integerText n) (Nat.le_trans small (by decide))
  rwa [Binary64.rounded_of_small small] at parsed

end Stencil
