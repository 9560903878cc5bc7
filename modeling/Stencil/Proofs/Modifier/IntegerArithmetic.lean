import Stencil.Proofs.Modifier.Complements
import Stencil.Proofs.Template.EscapeRoundTrip
import Stencil.Proofs.Template.SinglePass
import Stencil.Proofs.Value.Numerals

namespace Stencil

/-! Adding and subtracting integers.

Where the operands and the result are small, the modifiers calculate as with integers and not as with
numbers: nothing is rounded, and the result is written as an integer.
-/

theorem backslash_notMem_integerText (n : Int) : '\\' ∉ integerText n := fun member =>
  absurd (isDigit_of_mem_integerText member (by decide)) (by decide)

namespace Template

variable {d : Delimiters} {name : String} {calls : List WrittenCall}

/-- A keyword that makes up a whole template is replaced by what its calls make of its value. -/
theorem populateValues_writeKeyword (registry : Registry) (nonempty : name ≠ "")
    (solid : ∀ c ∈ name.toList, Unicode.isWhiteSpace c = false)
    (even : EvenBackslashes [d.modifier, d.closing] name.toList)
    (writable : ∀ call ∈ calls, call.Writable d) (value : Value) :
    (parse d registry (String.ofList (d.writeKeyword name calls))).populateValues
        (KeywordValues.empty.set name value) =
      (calls.foldlM (fun value call => registry.resolve (.named call.name call.params) value)
        value).map fun result => String.ofList result.text := by
  have wellFormed := Delimiters.writeKeyword_wellFormed nonempty solid even writable
  have pieces := Delimiters.pieces_source_append wellFormed []
  rw [List.append_nil, Delimiters.source_writeChain, Delimiters.pieces_nil] at pieces
  have only : lastFolded? d (d.foldName name) (KeywordValues.empty.set name value).entries =
      some value := by
    simp [lastFolded?, KeywordValues.empty, KeywordValues.without]
  have keyword : d.foldName (String.ofList (d.unescape (d.escape name.toList))) =
      d.foldName name := by
    rw [Delimiters.unescape_escape, String.ofList_toList]
  rw [populateValues, render?_parse_pieces, String.toList_ofList, pieces]
  simp only [Piece.texts?, bodyFilling?, Occurrence.filling?, Occurrence.ofBody, keyword, only,
    String.toList_ofList, Delimiters.ofChain_writeChain writable, List.foldlM_map]
  cases calls.foldlM (fun value call => registry.resolve (.named call.name call.params) value)
    value <;> simp

end Template

namespace Registry

open Modifier

variable {name : String} {n k result : Int}

theorem natAbs_le_integerLimit (small : n.natAbs < Value.integralBound) :
    n.natAbs ≤ Binary64.integerLimit :=
  Nat.le_trans (Nat.le_of_lt small) (by decide)

/-- A calculation that is exact for an integer gives an integer. -/
theorem numeric_integer {operation : Binary64 → Option Binary64}
    (exact : ∀ x, x.Is n → ∃ z, operation x = some z ∧ z.Is result)
    (n_small : n.natAbs < Value.integralBound)
    (result_small : result.natAbs < Value.integralBound) :
    numeric operation (.integer n) = .integer result := by
  obtain ⟨x, read, isInput⟩ := Binary64.ofInt?_integer (natAbs_le_integerLimit n_small)
  obtain ⟨z, computed, isResult⟩ := exact x isInput
  have number : (Value.integer n).number? = some x := read
  rw [numeric, number, Option.bind_some, computed]
  exact Value.ofBinary64_integer isResult result_small

theorem resolve_binary [Regex.Limits] {operation : Binary64 → Binary64 → Option Binary64}
    (known : builtin.find? name = some (binary operation))
    (exact : ∀ x y, x.Is n → y.Is k → ∃ z, operation x y = some z ∧ z.Is result)
    (n_small : n.natAbs < Value.integralBound) (k_small : k.natAbs < Value.integralBound)
    (result_small : result.natAbs < Value.integralBound) :
    builtin.resolve ⟨name, [String.ofList (integerText k)]⟩ (.integer n) =
      some (.integer result) := by
  obtain ⟨y, parsed, isOperand⟩ := parseNumber?_integerText (natAbs_le_integerLimit k_small)
  rw [resolve_of_direct known]
  simp only [List.getElem?_cons_zero, Option.bind_eq_bind, Option.bind_some, String.toList_ofList,
    parsed, Option.pure_def, Option.getD_some]
  exact congrArg some (numeric_integer (exact · y · isOperand) n_small result_small)

theorem resolve_add [Regex.Limits] (n_small : n.natAbs < Value.integralBound)
    (k_small : k.natAbs < Value.integralBound)
    (sum_small : (n + k).natAbs < Value.integralBound) :
    builtin.resolve ⟨"add", [String.ofList (integerText k)]⟩ (.integer n) =
      some (.integer (n + k)) := by
  have known : builtin.find? "add" = some (binary Binary64.add?) := by
    rw [find?_builtin]
    rfl
  exact resolve_binary known (fun x y isInput isOperand =>
    Binary64.add?_integer isInput isOperand (natAbs_le_integerLimit sum_small))
    n_small k_small sum_small

theorem resolve_subtract [Regex.Limits] (n_small : n.natAbs < Value.integralBound)
    (k_small : k.natAbs < Value.integralBound)
    (difference_small : (n - k).natAbs < Value.integralBound) :
    builtin.resolve ⟨"subtract", [String.ofList (integerText k)]⟩ (.integer n) =
      some (.integer (n - k)) := by
  have known : builtin.find? "subtract" = some (binary Binary64.sub?) := by
    rw [find?_builtin]
    rfl
  exact resolve_binary known (fun x y isInput isOperand =>
    Binary64.sub?_integer isInput isOperand (natAbs_le_integerLimit difference_small))
    n_small k_small difference_small

/-- Two calls that add an integer and take it away again. -/
def thereAndBack (k : Int) : List WrittenCall :=
  [⟨"add", [String.ofList (integerText k)]⟩, ⟨"subtract", [String.ofList (integerText k)]⟩]

theorem thereAndBack_writable (d : Delimiters) (k : Int) :
    ∀ call ∈ thereAndBack k, call.Writable d := by
  have writable {name : String} (nonempty : name ≠ "")
      (letters : name.toList.all Unicode.isAlphabetic = true) :
      WrittenCall.Writable d ⟨name, [String.ofList (integerText k)]⟩ := by
    refine ⟨nonempty, List.all_eq_true.mp letters, fun param member => ?_⟩
    rw [List.mem_singleton.mp member, String.toList_ofList]
    exact .of_notMem (backslash_notMem_integerText k)
  intro call member
  simp only [thereAndBack, List.mem_cons, List.not_mem_nil, or_false] at member
  rcases member with rfl | rfl
  · exact writable (by decide) (by decide +kernel)
  · exact writable (by decide) (by decide +kernel)

theorem foldlM_pair {f : Value → WrittenCall → Option Value} {start middle finish : Value}
    {first second : WrittenCall} (there : f start first = some middle)
    (onward : f middle second = some finish) : [first, second].foldlM f start = some finish := by
  simp only [List.foldlM_cons, List.foldlM_nil, there, onward, Option.bind_eq_bind,
    Option.bind_some, Option.pure_def]

theorem foldlM_thereAndBack [Regex.Limits] (n_small : n.natAbs < Value.integralBound)
    (k_small : k.natAbs < Value.integralBound)
    (sum_small : (n + k).natAbs < Value.integralBound) :
    (thereAndBack k).foldlM
        (fun value call => builtin.resolve (.named call.name call.params) value) (.integer n) =
      some (.integer n) := by
  have add (params : List String) : ModifierCall.named "add" params = ⟨"add", params⟩ := by
    rw [ModifierCall.named, normalizeName_of_ascii_lower (by decide)]
  have subtract (params : List String) :
      ModifierCall.named "subtract" params = ⟨"subtract", params⟩ := by
    rw [ModifierCall.named, normalizeName_of_ascii_lower (by decide)]
  have there := resolve_add n_small k_small sum_small
  have andBack := resolve_subtract sum_small k_small (by rwa [Int.add_sub_cancel])
  rw [← add] at there
  rw [Int.add_sub_cancel, ← subtract] at andBack
  exact foldlM_pair there andBack

/-- Integers are added and subtracted exactly as long as they and the result stay below the bound up
to which results are given as integers.  So a keyword whose calls add an integer and take it away
again is replaced by the decimal text of its value, under all delimiters. -/
theorem integer_arithmetic_exact [Regex.Limits] (n_small : n.natAbs < 9000000000000000)
    (k_small : k.natAbs < 9000000000000000) :
    ((n + k).natAbs < 9000000000000000 →
        builtin.resolve ⟨"add", [String.ofList (integerText k)]⟩ (.integer n) =
          some (.integer (n + k))) ∧
      ((n - k).natAbs < 9000000000000000 →
        builtin.resolve ⟨"subtract", [String.ofList (integerText k)]⟩ (.integer n) =
          some (.integer (n - k))) ∧
      ((n + k).natAbs < 9000000000000000 →
        ∀ (d : Delimiters) (keyword : String), keyword ≠ "" →
          (∀ c ∈ keyword.toList, Unicode.isWhiteSpace c = false) →
          EvenBackslashes [d.modifier, d.closing] keyword.toList →
            (Template.parse d builtin
                (String.ofList (d.writeKeyword keyword (thereAndBack k)))).populateValues
                (KeywordValues.empty.set keyword (.integer n)) =
              some (String.ofList (integerText n))) := by
  refine ⟨resolve_add n_small k_small, resolve_subtract n_small k_small, ?_⟩
  intro sum_small d keyword nonempty solid even
  have filled := Template.populateValues_writeKeyword builtin nonempty solid even
    (thereAndBack_writable d k) (.integer n)
  rw [foldlM_thereAndBack n_small k_small sum_small] at filled
  exact filled

/-- A sum and a difference of both signs, the difference directly below the bound. -/
theorem integer_arithmetic_below_bound :
    let n : Int := 4000000000000001
    let operand := "-4999999999999998"
    builtin.resolve ⟨"add", [operand]⟩ (.integer n) = some (.integer (-999999999999997)) ∧
      builtin.resolve ⟨"subtract", [operand]⟩ (.integer n) = some (.integer 8999999999999999) ∧
      (Template.parse .standard builtin
          "\x7bN^add:-4999999999999998^subtract:-4999999999999998\x7d").populateValues
          (KeywordValues.empty.set "N" (.integer n)) = some "4000000000000001" := by
  intro n operand
  obtain ⟨added, subtracted, back⟩ :=
    integer_arithmetic_exact (n := n) (k := -4999999999999998) (by decide) (by decide)
  have written : String.ofList (integerText (-4999999999999998)) = operand := by decide +kernel
  have template : String.ofList (Delimiters.standard.writeKeyword "N"
      (thereAndBack (-4999999999999998))) =
        "\x7bN^add:-4999999999999998^subtract:-4999999999999998\x7d" := by
    decide +kernel
  have output : String.ofList (integerText n) = "4000000000000001" := by decide +kernel
  have solid : ∀ c ∈ "N".toList, Unicode.isWhiteSpace c = false :=
    List.forall_mem_singleton.mpr (by decide)
  have rendered := back (by decide) .standard "N" (by decide) solid
    (.of_notMem (by decide))
  rw [written] at added subtracted
  rw [template, output] at rendered
  exact ⟨added (by decide), subtracted (by decide), rendered⟩

end Registry

end Stencil
