import Stencil.Proofs.Modifier.Composites
import Stencil.Proofs.Modifier.Complements

namespace Stencil

/-! Values that pass through.

Modifiers of texts and of numbers leave every other value as it is, and those that look for regular
expressions leave all values alone that have no scalar text.  Only the tests for emptiness and on
the text of a value look at values of every kind.
-/

namespace Value

/-- Neither a number nor a text. -/
def Inert (value : Value) : Prop :=
  value.kind ≠ .number ∧ value.kind ≠ .string

variable {value : Value}

theorem Inert.number?_eq_none (inert : value.Inert) : value.number? = none := by
  cases value with
  | number n => exact absurd rfl inert.1
  | string s => exact absurd rfl inert.2
  | _ => rfl

theorem Inert.onText_eq (inert : value.Inert) (f : List Char → List Char) :
    onText f value = value := by
  cases value with
  | string s => exact absurd rfl inert.2
  | _ => rfl

theorem scalarText?_eq_none (inert : value.Inert) (other : value.kind ≠ .boolean) :
    value.scalarText? = none := by
  cases value with
  | number n => exact absurd rfl inert.1
  | string s => exact absurd rfl inert.2
  | boolean b => exact absurd rfl other
  | _ => rfl

end Value

def Transform.Keeps (value : Value) (transform : Transform) : Prop :=
  transform value = some value

theorem Transform.keeps_sequence {value : Value} {transforms : List Transform}
    (each : ∀ transform ∈ transforms, transform.Keeps value) :
    (sequence transforms).Keeps value := by
  induction transforms with
  | nil => rfl
  | cons transform rest restIH =>
      obtain ⟨here, later⟩ := List.forall_mem_cons.mp each
      rw [Transform.Keeps, sequence_cons, here, Option.bind_some]
      exact restIH later

namespace Modifier

/-- Whatever the parameters, all that the modifier does by itself leaves the value as it is. -/
def Keeps (value : Value) (modifier : Modifier) : Prop :=
  ∀ params, modifier.DoesOnly (Transform.Keeps value) params

/-- The names of the modifiers that test for emptiness or test the text of a value. -/
def valueTests : List String :=
  ["empty", "notempty", "match", "equals", "notmatch", "contains", "doesntcontain",
    "doesntcontains"]

/-- The names of the modifiers that look for regular expressions. -/
def patternModifiers : List String :=
  ["pregmatch", "notpregmatch", "pregreplace"]

section Families

variable {value : Value}

theorem keeps_direct {function? : List String → Option (Value → Value)}
    (each : ∀ params function, function? params = some function → function value = value) :
    (direct function?).Keeps value := by
  intro params
  exact doesOnly_direct fun function given => congrArg some (each params function given)

theorem keeps_patternTest [Regex.Limits] (textless : value.scalarText? = none) (wanted : Bool) :
    (patternTest wanted).Keeps value := by
  refine keeps_direct fun params function given => ?_
  obtain ⟨regex, _, given⟩ := Option.bind_eq_some_iff.mp given
  obtain ⟨holds, _, given⟩ := Option.bind_eq_some_iff.mp given
  cases given
  simp only [branch, textless, Option.map_none]

theorem keeps_patternReplace [Regex.Limits] (textless : value.scalarText? = none) :
    patternReplace.Keeps value := by
  refine keeps_direct fun params function given => ?_
  obtain ⟨regex, _, given⟩ := Option.bind_eq_some_iff.mp given
  cases given
  simp only [textless]

theorem keeps_patternFamily [Regex.Limits] (textless : value.scalarText? = none)
    {entry : List String × Modifier} (member : entry ∈ patternFamily) : entry.2.Keeps value := by
  simp only [patternFamily, List.mem_cons, List.not_mem_nil, or_false] at member
  rcases member with rfl | rfl | rfl
  · exact keeps_patternTest textless true
  · exact keeps_patternTest textless false
  · exact keeps_patternReplace textless

variable (inert : value.Inert)

include inert

theorem keeps_onText (f : List String → List Char → List Char) :
    (direct fun params => some (Value.onText (f params))).Keeps value := by
  refine keeps_direct fun params function given => ?_
  cases given
  exact inert.onText_eq (f params)

theorem keeps_text (f : List Char → List Char) : (text f).Keeps value :=
  keeps_onText inert fun _ => f

theorem keeps_noLines : noLines.Keeps value :=
  keeps_onText inert fun _ => Text.limitBreaks _

theorem keeps_limitUnits (next : Text.TakeUnit) : (limitUnits next).Keeps value :=
  fun _ => doesOnly_limitUnits fun _ => congrArg some (inert.onText_eq _)

theorem keeps_maxChars : maxChars.Keeps value :=
  fun _ => doesOnly_maxChars fun _ => congrArg some (inert.onText_eq _)

theorem keeps_numberTest (test : Binary64 → Binary64 → Bool) : (numberTest test).Keeps value := by
  refine keeps_direct fun params function given => ?_
  obtain ⟨operand, _, given⟩ := Option.bind_eq_some_iff.mp given
  obtain ⟨holds, _, given⟩ := Option.bind_eq_some_iff.mp given
  cases given
  simp only [branch, inert.number?_eq_none, Option.map_none]

/-- What calculates does so with the numeric reading of a value. -/
theorem keeps_of_numeric {function? : List String → Option (Value → Value)}
    (calculates : ∀ params function, function? params = some function →
      ∃ operation, numeric operation = function) : (direct function?).Keeps value := by
  refine keeps_direct fun params function given => ?_
  obtain ⟨operation, rfl⟩ := calculates params function given
  simp only [numeric, inert.number?_eq_none, Option.bind_none]

theorem keeps_binary (operation : Binary64 → Binary64 → Option Binary64) :
    (binary operation).Keeps value := by
  refine keeps_of_numeric inert fun params function given => ?_
  obtain ⟨operand, _, made⟩ := Option.bind_eq_some_iff.mp given
  cases made
  exact ⟨_, rfl⟩

theorem keeps_divide : divide.Keeps value := by
  refine keeps_of_numeric inert fun params function given => ?_
  obtain ⟨divisor, _, made⟩ := Option.bind_eq_some_iff.mp given
  obtain ⟨_, made⟩ := Option.ite_none_left_eq_some.mp made
  cases made
  exact ⟨_, rfl⟩

/-- A modifier whose parameters give one number to calculate with. -/
theorem keeps_numeric {number? : List String → Option Binary64}
    (operation : Binary64 → Binary64 → Option Binary64) :
    (direct fun params => (number? params).map fun x => numeric (operation x)).Keeps value := by
  refine keeps_of_numeric inert fun params function given => ?_
  obtain ⟨x, _, made⟩ := Option.map_eq_some_iff.mp given
  exact ⟨_, made⟩

theorem keeps_arithmetic {entry : List String × Modifier} (member : entry ∈ arithmeticFamily) :
    entry.2.Keeps value := by
  have plain (operation : Binary64 → Option Binary64) :
      (direct fun _ => some (numeric operation)).Keeps value :=
    keeps_of_numeric inert fun _ _ given => ⟨operation, Option.some.inj given⟩
  simp only [arithmeticFamily, List.mem_cons, List.not_mem_nil, or_false] at member
  rcases member with rfl | rfl | rfl | rfl | rfl | rfl | rfl | rfl | rfl
  · exact keeps_binary inert _
  · exact keeps_binary inert _
  · exact keeps_binary inert _
  · exact keeps_divide inert
  · exact keeps_numeric inert _
  · exact keeps_numeric inert _
  · exact keeps_numeric inert _
  · exact plain _
  · exact plain _

theorem keeps_dateFormat : dateFormat.Keeps value := by
  intro params steps known transform member
  rw [steps?_dateFormat] at known
  obtain ⟨format, _, rfl⟩ := Option.map_eq_some_iff.mp known
  rw [List.mem_singleton, Step.apply.injEq] at member
  subst member
  refine writeDate_of_no_moment ?_
  rw [Value.moment?, inert.number?_eq_none, Option.bind_none]

theorem keeps_catalogue [Regex.Limits] {entry : List String × Modifier}
    (member : entry ∈ catalogue) :
    (∀ name ∈ entry.1, name ∈ valueTests) ∨ entry ∈ patternFamily ∨ entry.2.Keeps value := by
  have plainTextKeeps : plainText.Keeps value := fun _ => doesOnly_plainText
  have texts : ∀ entry ∈ spellingFamily ++ markupFamily ++ cleanupFamily,
      entry.2.Keeps value := by
    simp [spellingFamily, markupFamily, cleanupFamily, maxWords, maxSentences, keeps_text inert,
      plainTextKeeps, keeps_noLines inert, keeps_limitUnits inert, keeps_maxChars inert]
  have branches : ∀ entry ∈ branchFamily,
      (∀ name ∈ entry.1, name ∈ valueTests) ∨ entry.2.Keeps value := by
    simp [branchFamily, valueTests, greater, greaterOrEqual, less, lessOrEqual,
      keeps_numberTest inert]
  have arithmetic : ∀ entry ∈ arithmeticFamily, entry.2.Keeps value :=
    fun _ => keeps_arithmetic inert
  have dates : ∀ entry ∈ dateFamily, entry.2.Keeps value := by
    simp [dateFamily, keeps_dateFormat inert]
  rw [catalogue] at member
  simp only [List.mem_append] at member texts
  grind

end Families

end Modifier

namespace Registry

open Modifier

variable {value : Value}

/-- The name is none of a modifier that looks at the value. -/
structure Spares (value : Value) (name : String) : Prop where
  untested : name ∉ valueTests
  unsearched : value.kind = .boolean → name ∉ patternModifiers

theorem spares_lookedUp {name : String} (member : name ∈ lookedUp) : Spares value name where
  untested := by
    have apart : ∀ name ∈ lookedUp, name ∉ valueTests := by decide
    exact apart name member
  unsearched _ := by
    have apart : ∀ name ∈ lookedUp, name ∉ patternModifiers := by decide
    exact apart name member

theorem keeps_of_spares [Regex.Limits] (inert : value.Inert) {name : String} {modifier : Modifier}
    (spares : Spares value name) (known : builtin.find? name = some modifier) :
    modifier.Keeps value := by
  obtain ⟨entry, member, named, rfl⟩ := mem_catalogue_of_find? known
  rcases keeps_catalogue inert member with tests | searches | keeps
  · exact absurd (tests name named) spares.untested
  · have isPattern : ∀ entry ∈ patternFamily, ∀ name ∈ entry.1, name ∈ patternModifiers := by
      simp [patternFamily, patternModifiers]
    refine keeps_patternFamily (Value.scalarText?_eq_none inert fun isBoolean => ?_) searches
    exact spares.unsearched isBoolean (isPattern entry searches name named)
  · exact keeps

theorem keeps_resolve [Regex.Limits] (inert : value.Inert) {call : ModifierCall}
    (spares : Spares value call.name) : (builtin.resolve call).Keeps value := by
  refine resolve_of_kind (Transform.Keeps value) (fun call => Spares value call.name)
    (fun _ => Transform.keeps_sequence) ?_ ?_ (finishes_builtin call) spares
  · intro call spares modifier known
    exact keeps_of_spares inert spares known call.params
  · intro call _ inner nested
    obtain ⟨name, member, rfl⟩ := nestedCalls_lookedUp
      (all_builtin fun _ => selfContained_or_mem_composites) call inner nested
    exact spares_lookedUp member

theorem apply_of_spares [Regex.Limits] (inert : value.Inert) {calls : List ModifierCall}
    (spares : ∀ call ∈ calls, Spares value call.name) :
    (Chain.ofCalls builtin calls).apply value = some value := by
  rw [apply_ofCalls_map]
  refine Transform.keeps_sequence fun transform member => ?_
  obtain ⟨call, called, rfl⟩ := List.mem_map.mp member
  exact keeps_resolve inert (spares call called)

/-- Each test chooses a text whatever the value. -/
theorem makesText_of_valueTest [Regex.Limits] {name : String} (member : name ∈ valueTests)
    (value : Value) :
    ∃ params text, builtin.resolve ⟨name, params⟩ value = some (.string text) := by
  have ofEmptiness (wanted : Bool) {name : String}
      (known : builtin.find? name = some (emptiness wanted)) :
      ∃ params text, builtin.resolve ⟨name, params⟩ value = some (.string text) := by
    refine ⟨["a", "b"], ?_⟩
    rw [resolve_emptiness known, chosen_some]
    exact ⟨_, rfl⟩
  have ofText (test : List Char → List Char → Bool) {name : String}
      (known : builtin.find? name = some (textTest test)) :
      ∃ params text, builtin.resolve ⟨name, params⟩ value = some (.string text) := by
    refine ⟨["o", "a", "b"], ?_⟩
    rw [choosesBy_textTest known, textVerdict, if_neg (by decide), chosen_some]
    exact ⟨_, rfl⟩
  simp only [valueTests, List.mem_cons, List.not_mem_nil, or_false] at member
  rcases member with rfl | rfl | rfl | rfl | rfl | rfl | rfl | rfl
  · exact ofEmptiness true ((find?_builtin _).trans rfl)
  · exact ofEmptiness false ((find?_builtin _).trans rfl)
  · exact ofText (fun text operand => text == operand) ((find?_builtin _).trans rfl)
  · exact ofText (fun text operand => text == operand) ((find?_builtin _).trans rfl)
  · exact ofText (fun text operand => text != operand) ((find?_builtin _).trans rfl)
  · exact ofText (fun text operand => isInfix operand text) ((find?_builtin _).trans rfl)
  · exact ofText (fun text operand => !isInfix operand text) ((find?_builtin _).trans rfl)
  · exact ofText (fun text operand => !isInfix operand text) ((find?_builtin _).trans rfl)

/-- Each search makes a text of a boolean if the engine does not refuse an expression of one
letter. -/
theorem makesText_of_patternModifier [Regex.Limits]
    (allowed : ∀ flags, Regex.Limits.allow flags ['o'] = true) {name : String}
    (member : name ∈ patternModifiers) (b : Bool) :
    ∃ params text, builtin.resolve ⟨name, params⟩ (.boolean b) = some (.string text) := by
  have reads (dotMatchesLineFeed : Bool) :
      ∃ regex, expression? dotMatchesLineFeed (some "o") = some regex := by
    have built : expression? dotMatchesLineFeed (some "o") =
        Regex.build? { dotMatchesLineFeed } ['o'] := rfl
    rw [built, Regex.build?, if_pos (allowed _)]
    refine Option.isSome_iff_exists.mp ?_
    cases dotMatchesLineFeed <;> decide +kernel
  have ofTest (wanted : Bool) {name : String}
      (known : builtin.find? name = some (patternTest wanted)) :
      ∃ params text, builtin.resolve ⟨name, params⟩ (.boolean b) = some (.string text) := by
    obtain ⟨regex, read⟩ := reads true
    refine ⟨["o", "a", "b"], ?_⟩
    rw [choosesBy_patternTest known]
    simp only [patternVerdict, read, Option.bind_some]
    exact ⟨_, congrArg some (chosen_some ..)⟩
  simp only [patternModifiers, List.mem_cons, List.not_mem_nil, or_false] at member
  rcases member with rfl | rfl | rfl
  · exact ofTest true ((find?_builtin _).trans rfl)
  · exact ofTest false ((find?_builtin _).trans rfl)
  · have known : builtin.find? "pregreplace" = some patternReplace := (find?_builtin _).trans rfl
    obtain ⟨regex, read⟩ := reads false
    refine ⟨["o"], ?_⟩
    rw [resolve_of_direct known]
    simp only [List.getElem?_cons_zero, Option.bind_eq_bind, read, Option.bind_some,
      Option.pure_def, Option.getD_some]
    exact ⟨_, rfl⟩

/-- No other modifier leaves the value as it is with any parameters. -/
theorem spares_iff [Regex.Limits] (allowed : ∀ flags, Regex.Limits.allow flags ['o'] = true)
    (inert : value.Inert) {name : String} :
    Spares value name ↔ ∀ params, builtin.resolve ⟨name, params⟩ value = some value := by
  constructor
  · intro spares params
    have keeps : (builtin.resolve ⟨name, params⟩).Keeps value := keeps_resolve inert spares
    exact keeps
  · intro passes
    have noText : ¬ ∃ params text, builtin.resolve ⟨name, params⟩ value = some (.string text) := by
      rintro ⟨params, text, made⟩
      have same := (passes params).symm.trans made
      obtain rfl := Option.some.inj same
      exact inert.2 rfl
    constructor
    · exact fun tests => noText (makesText_of_valueTest tests value)
    · intro isBoolean searches
      cases value with
      | boolean b => exact noText (makesText_of_patternModifier allowed searches b)
      | _ => cases isBoolean

variable {calls : List ModifierCall}

/-- Chains without a test pass null, arrays and objects through, and booleans too if there is no
search for a regular expression. -/
theorem untested_values_pass [Regex.Limits] (untested : ∀ call ∈ calls, call.name ∉ valueTests) :
    (∀ value : Value, value.kind ∈ [.null, .array, .object] →
        (Chain.ofCalls builtin calls).apply value = some value) ∧
      ((∀ call ∈ calls, call.name ∉ patternModifiers) →
        ∀ b, (Chain.ofCalls builtin calls).apply (.boolean b) = some (.boolean b)) := by
  constructor
  · intro value isKind
    have kinds : ∀ kind ∈ [Value.Kind.null, .array, .object],
        kind ≠ .number ∧ kind ≠ .string ∧ kind ≠ .boolean := by
      decide
    obtain ⟨notNumber, notString, notBoolean⟩ := kinds value.kind isKind
    refine apply_of_spares ⟨notNumber, notString⟩ fun call member => ?_
    exact ⟨untested call member, fun isBoolean => absurd isBoolean notBoolean⟩
  · intro unsearched b
    have inert : (Value.boolean b).Inert := ⟨nofun, nofun⟩
    exact apply_of_spares inert fun call member =>
      ⟨untested call member, fun _ => unsearched call member⟩

/-- The second call is not known, and the parameters of the third one are rejected. -/
theorem untested_values_pass_of_odd_calls :
    let calls : List ModifierCall :=
      [⟨"plaintext", []⟩, ⟨"bogus", ["x"]⟩, ⟨"gt", ["x", "a"]⟩, ⟨"chars", ["1"]⟩]
    (∀ call ∈ calls, call.name ∉ valueTests) ∧
      (∀ call ∈ calls, call.name ∉ patternModifiers) ∧
      (Chain.ofCalls builtin calls).apply (.array [.null, .string "x"]) =
        some (.array [.null, .string "x"]) ∧
      (Chain.ofCalls builtin calls).apply (.boolean true) = some (.boolean true) := by
  intro calls
  have untested : ∀ call ∈ calls, call.name ∉ valueTests := by decide
  have unsearched : ∀ call ∈ calls, call.name ∉ patternModifiers := by decide
  have passes := untested_values_pass untested
  exact ⟨untested, unsearched, passes.1 _ (by decide), passes.2 unsearched true⟩

end Registry

end Stencil
