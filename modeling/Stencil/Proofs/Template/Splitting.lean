import Stencil.Template.Calls
import Stencil.Proofs.Template.EscapeUnits

namespace Stencil

/-! Cutting at the separators that are not escaped.

A part is a run of units without the separator; the parts of a text that is put together from such
runs are these runs again.
-/

variable {separator : Char}

/-- The texts without a separator of their own. -/
def PartText (separator : Char) : List Char → Prop :=
  Units (fun c => c ≠ separator) (fun _ => True)

@[simp] theorem cutUnescaped_nil (separator : Char) (escaped : Bool) :
    cutUnescaped separator escaped [] = ([], []) := rfl

theorem cutUnescaped_escaped (separator c : Char) (rest : List Char) :
    cutUnescaped separator false ('\\' :: c :: rest) =
      ('\\' :: c :: (cutUnescaped separator false rest).1,
        (cutUnescaped separator false rest).2) := by
  simp [cutUnescaped]

theorem cutUnescaped_plain {c : Char} (notBackslash : c ≠ '\\') (different : c ≠ separator)
    (rest : List Char) :
    cutUnescaped separator false (c :: rest) =
      (c :: (cutUnescaped separator false rest).1, (cutUnescaped separator false rest).2) := by
  simp [cutUnescaped, notBackslash, different]

theorem cutUnescaped_separator (notBackslash : separator ≠ '\\') (rest : List Char) :
    cutUnescaped separator false (separator :: rest) =
      ([], (cutUnescaped separator false rest).1 :: (cutUnescaped separator false rest).2) := by
  simp [cutUnescaped, notBackslash]

theorem cutUnescaped_append_units {part : List Char} (units : PartText separator part)
    (rest : List Char) :
    cutUnescaped separator false (part ++ rest) =
      (part ++ (cutUnescaped separator false rest).1, (cutUnescaped separator false rest).2) := by
  induction units with
  | nil => rfl
  | escaped _ _ restIH =>
      rw [List.cons_append, List.cons_append, cutUnescaped_escaped, restIH]
      rfl
  | plain notBackslash different _ restIH =>
      rw [List.cons_append, cutUnescaped_plain notBackslash different, restIH]
      rfl

/-- Cutting undoes joining. -/
theorem cutUnescaped_join (notBackslash : separator ≠ '\\') {first : List Char}
    {others : List (List Char)} (firstUnits : PartText separator first)
    (othersUnits : ∀ part ∈ others, PartText separator part) :
    cutUnescaped separator false (first ++ others.flatMap (separator :: ·)) = (first, others) := by
  induction others generalizing first with
  | nil => simpa using cutUnescaped_append_units firstUnits []
  | cons next others othersIH =>
      have rest := othersIH (othersUnits next (by simp))
        fun part member => othersUnits part (by simp [member])
      rw [cutUnescaped_append_units firstUnits, List.flatMap_cons, List.cons_append,
        cutUnescaped_separator notBackslash, rest, List.append_nil]

end Stencil
