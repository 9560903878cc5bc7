import Mathlib.Data.List.Infix
import Stencil.Proofs.Modifier.Steadiness
import Stencil.Proofs.Template.Chains

namespace Stencil

/-! Modifiers that choose between two texts, and those that choose the other way round.

What a modifier chooses hangs on a verdict, and there is none where the operand is rejected or the
test does not apply to the value.  A modifier and its opposite come to opposite verdicts on the same
operands and values, so that they agree once the two texts change places.
-/

namespace Modifier

/-- The text for a verdict, or the value itself where there is none. -/
def chosen (holds fails : String) (value : Value) : Option Bool → Value
  | some true => .string holds
  | some false => .string fails
  | none => value

theorem branch_eq_chosen (holds fails : String) (test : Value → Option Bool) (value : Value) :
    branch holds (some fails) test value = chosen holds fails value (test value) := by
  rw [branch]
  rcases test value with _ | _ | _ <;> rfl

theorem chosen_some (holds fails : String) (value : Value) (verdict : Bool) :
    chosen holds fails value (some verdict) = .string (if verdict then holds else fails) := by
  cases verdict <;> rfl

/-- What a test comes to for an operand and a value: nothing where it does not apply. -/
abbrev Verdict := String → Value → Option Bool

def Verdict.opposite (verdict : Verdict) : Verdict :=
  fun operand value => (verdict operand value).map (!·)

theorem chosen_opposite (verdict : Verdict) (operand a b : String) (value : Value) :
    chosen b a value (verdict.opposite operand value) =
      chosen a b value (verdict operand value) := by
  rw [Verdict.opposite]
  rcases verdict operand value with _ | _ | _ <;> rfl

/-- The verdict on the text of a value.  There is none for an empty operand. -/
def textVerdict (test : List Char → List Char → Bool) : Verdict :=
  fun operand value => if operand = "" then none else some (test value.text operand.toList)

/-- The verdict on a number.  There is none unless the operand and the value are numbers. -/
def numberVerdict (test : Binary64 → Binary64 → Bool) : Verdict :=
  fun operand value =>
    (parseNumber? operand.toList).bind fun bound => value.number?.map fun x => test x bound

/-- The verdict of a search in the text of a scalar.  There is none unless the operand is a regular
expression. -/
def patternVerdict [Regex.Limits] : Verdict :=
  fun operand value =>
    (expression? true (some operand)).bind fun regex => value.scalarText?.map regex.isMatch

theorem opposite_textVerdict (test : List Char → List Char → Bool) :
    (textVerdict test).opposite = textVerdict fun text operand => !test text operand := by
  funext operand value
  rw [Verdict.opposite, textVerdict, textVerdict]
  split <;> rfl

theorem opposite_numberVerdict (test : Binary64 → Binary64 → Bool) :
    (numberVerdict test).opposite = numberVerdict fun x bound => !test x bound := by
  funext operand value
  rw [Verdict.opposite, numberVerdict, numberVerdict]
  cases parseNumber? operand.toList with
  | none => rfl
  | some bound =>
      rw [Option.bind_some, Option.bind_some, Option.map_map]
      rfl

theorem isInfix_iff {part text : List Char} : isInfix part text = true ↔ part <:+: text := by
  induction text with
  | nil => rw [isInfix, List.isEmpty_iff, List.infix_nil]
  | cons c rest restIH =>
      rw [isInfix, Bool.or_eq_true, List.isPrefixOf_iff_prefix, restIH, List.infix_cons_iff]

theorem isInfix_eq_decide (part text : List Char) :
    isInfix part text = decide (part <:+: text) := by
  rw [Bool.eq_iff_iff, isInfix_iff, decide_eq_true_iff]

/-- All numbers are finite, so of any two one is less than the other or they are equal. -/
theorem not_lt_eq_le (x y : Binary64) : (!decide (x < y)) = decide (y ≤ x) := by
  rw [← decide_not, decide_eq_decide]
  exact Int.not_lt

theorem not_le_eq_lt (x y : Binary64) : (!decide (x ≤ y)) = decide (y < x) := by
  rw [← decide_not, decide_eq_decide]
  exact Int.not_le

end Modifier

namespace Registry

open Modifier

theorem resolve_of_direct {registry : Registry} {name : String} {params : List String}
    {function? : List String → Option (Value → Value)}
    (known : registry.find? name = some (direct function?)) (value : Value) :
    registry.resolve ⟨name, params⟩ value = some (((function? params).getD id) value) := by
  cases made : function? params with
  | none =>
      have rejects : (direct function?).steps? params = none := by
        simp only [direct, ofTransform, made, Option.map_none]
      rw [resolve_of_ignores (.inr ⟨_, known, rejects⟩)]
      rfl
  | some function =>
      have steps : (direct function?).steps? params = some [.apply (.total function)] := by
        simp only [direct, ofTransform, made, Option.map_some]
      have resolved : registry.resolve? ⟨name, params⟩ = some (.sequence [.total function]) :=
        resolve?_of_single known steps
      rw [resolve_of_resolve? resolved]
      rfl

section Verdicts

variable {name : String}

/-- The modifier chooses between its last two parameters by the verdict for the first one. -/
def ChoosesBy [Regex.Limits] (name : String) (verdict : Verdict) : Prop :=
  ∀ operand holds fails value, builtin.resolve ⟨name, [operand, holds, fails]⟩ value =
    some (chosen holds fails value (verdict operand value))

theorem choosesBy_textTest [Regex.Limits] {test : List Char → List Char → Bool}
    (known : builtin.find? name = some (textTest test)) : ChoosesBy name (textVerdict test) := by
  intro operand holds fails value
  rw [resolve_of_direct known, textVerdict]
  by_cases isEmpty : operand = ""
  · subst isEmpty
    rfl
  · have nonempty : ¬ operand.toList.isEmpty = true := by simpa using isEmpty
    simp only [List.getElem?_cons_zero, List.getElem?_cons_succ, Option.bind_eq_bind,
      Option.bind_some, if_neg nonempty, if_neg isEmpty, Option.pure_def, Option.getD_some,
      branch_eq_chosen]

theorem choosesBy_numberTest [Regex.Limits] {test : Binary64 → Binary64 → Bool}
    (known : builtin.find? name = some (numberTest test)) :
    ChoosesBy name (numberVerdict test) := by
  intro operand holds fails value
  rw [resolve_of_direct known, numberVerdict]
  simp only [List.getElem?_cons_zero, List.getElem?_cons_succ, Option.bind_eq_bind,
    Option.bind_some, Option.pure_def]
  cases parseNumber? operand.toList with
  | none => rfl
  | some bound => rw [Option.bind_some, Option.getD_some, branch_eq_chosen, Option.bind_some]

theorem choosesBy_patternTest [Regex.Limits] {wanted : Bool}
    (known : builtin.find? name = some (patternTest wanted)) :
    ChoosesBy name fun operand value => (patternVerdict operand value).map (· == wanted) := by
  intro operand holds fails value
  rw [resolve_of_direct known]
  simp only [patternVerdict, List.getElem?_cons_zero, List.getElem?_cons_succ, Option.bind_eq_bind,
    Option.bind_some, Option.pure_def]
  cases expression? true (some operand) with
  | none => rfl
  | some regex =>
      rw [Option.bind_some, Option.getD_some, branch_eq_chosen, Option.bind_some, Option.map_map]
      rfl

theorem resolve_emptiness [Regex.Limits] {wanted : Bool}
    (known : builtin.find? name = some (emptiness wanted))
    (holds fails : String) (value : Value) :
    builtin.resolve ⟨name, [holds, fails]⟩ value =
      some (chosen holds fails value (some (value.isEmpty == wanted))) := by
  rw [resolve_of_direct known, ← branch_eq_chosen holds fails fun value => some _]
  rfl

end Verdicts

/-- Both calls make the same of the value, and the result is the given one. -/
def BothYield [Regex.Limits] (call other : ModifierCall) (value result : Value) : Prop :=
  builtin.resolve call value = builtin.resolve other value ∧
    builtin.resolve call value = some result

theorem bothYield_of_opposite [Regex.Limits] {name other : String} {verdict : Verdict}
    (chooses : ChoosesBy name verdict) (choosesOther : ChoosesBy other verdict.opposite)
    (operand a b : String) (value : Value) :
    BothYield ⟨name, [operand, a, b]⟩ ⟨other, [operand, b, a]⟩ value
      (chosen a b value (verdict operand value)) := by
  refine ⟨?_, chooses operand a b value⟩
  rw [chooses, choosesOther, chosen_opposite]

/-- Each pair of opposite modifiers makes the same of every value once the two texts change places,
and what it makes of it is told by the verdict. -/
theorem opposites_agree [Regex.Limits] (operand a b : String) (value : Value) :
    BothYield ⟨"match", [operand, a, b]⟩ ⟨"notmatch", [operand, b, a]⟩ value
        (chosen a b value (textVerdict (fun text operand => text == operand) operand value)) ∧
      BothYield ⟨"contains", [operand, a, b]⟩ ⟨"doesntcontain", [operand, b, a]⟩ value
        (chosen a b value
          (textVerdict (fun text operand => decide (operand <:+: text)) operand value)) ∧
      BothYield ⟨"gt", [operand, a, b]⟩ ⟨"lte", [operand, b, a]⟩ value
        (chosen a b value (numberVerdict (fun x bound => bound < x) operand value)) ∧
      BothYield ⟨"gte", [operand, a, b]⟩ ⟨"lt", [operand, b, a]⟩ value
        (chosen a b value (numberVerdict (fun x bound => bound ≤ x) operand value)) ∧
      BothYield ⟨"pregmatch", [operand, a, b]⟩ ⟨"notpregmatch", [operand, b, a]⟩ value
        (chosen a b value (patternVerdict operand value)) ∧
      BothYield ⟨"empty", [a, b]⟩ ⟨"notempty", [b, a]⟩ value
        (.string (if value.isEmpty then a else b)) := by
  refine ⟨?_, ?_, ?_, ?_, ?_, ?_⟩
  · refine bothYield_of_opposite (choosesBy_textTest ((find?_builtin _).trans rfl)) ?_
      operand a b value
    rw [opposite_textVerdict]
    exact choosesBy_textTest ((find?_builtin _).trans rfl)
  · simp only [← isInfix_eq_decide]
    refine bothYield_of_opposite (choosesBy_textTest ((find?_builtin _).trans rfl)) ?_
      operand a b value
    rw [opposite_textVerdict]
    exact choosesBy_textTest ((find?_builtin _).trans rfl)
  · refine bothYield_of_opposite (choosesBy_numberTest ((find?_builtin _).trans rfl)) ?_
      operand a b value
    simp only [opposite_numberVerdict, not_lt_eq_le]
    exact choosesBy_numberTest ((find?_builtin _).trans rfl)
  · refine bothYield_of_opposite (choosesBy_numberTest ((find?_builtin _).trans rfl)) ?_
      operand a b value
    simp only [opposite_numberVerdict, not_le_eq_lt]
    exact choosesBy_numberTest ((find?_builtin _).trans rfl)
  · have finds : builtin.find? "pregmatch" = some (patternTest true) := (find?_builtin _).trans rfl
    have misses : builtin.find? "notpregmatch" = some (patternTest false) :=
      (find?_builtin _).trans rfl
    refine bothYield_of_opposite ?_ ?_ operand a b value
    · simpa only [beq_true, Option.map_id'] using choosesBy_patternTest finds
    · have chooses := choosesBy_patternTest misses
      simp only [beq_false] at chooses
      exact chooses
  · have empty : builtin.find? "empty" = some (emptiness true) := (find?_builtin _).trans rfl
    have notEmpty : builtin.find? "notempty" = some (emptiness false) := (find?_builtin _).trans rfl
    rw [BothYield, resolve_emptiness empty, resolve_emptiness notEmpty]
    cases value.isEmpty <;> exact ⟨rfl, rfl⟩

end Registry

end Stencil
