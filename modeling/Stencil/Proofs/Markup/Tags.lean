import Stencil.Proofs.Markup.Constructs

namespace Stencil.Markup

open Pattern

/-! Removing tags leaves none.

A bracket that stays has no closing bracket behind it, except directly.  Neither can change when
tags further on go: what is left of the text behind the bracket is a part of it, and a closing
bracket that opens no tag stays where it is.
-/

def IsTag (tag : List Char) : Prop :=
  ∃ inside, inside ≠ [] ∧ '>' ∉ inside ∧ tag = '<' :: (inside ++ ['>'])

def HasTag (text : List Char) : Prop :=
  ∃ tag, IsTag tag ∧ tag <:+: text

/-- A text and what is left of it when some of its tags are taken out. -/
inductive TagsRemoved : List Char → List Char → Prop where
  | nil : TagsRemoved [] []
  | keep {text left : List Char} (c : Char) :
      TagsRemoved text left → TagsRemoved (c :: text) (c :: left)
  | remove {tag text left : List Char} :
      IsTag tag → TagsRemoved text left → TagsRemoved (tag ++ text) left

theorem TagsRemoved.subset {text left : List Char} (removed : TagsRemoved text left) :
    left ⊆ text := by
  induction removed with
  | nil => exact List.Subset.refl _
  | keep c _ restIH => exact List.cons_subset_cons c restIH
  | remove _ _ restIH => exact fun c member => List.mem_append_right _ (restIH member)

theorem anyTag_after?_eq_some_iff {text after : List Char} :
    anyTag.after? text = some after ↔ ∃ tag, IsTag tag ∧ text = tag ++ after := by
  constructor
  · intro found
    obtain ⟨middle, opened, closed⟩ := Option.bind_eq_some_iff.mp found
    obtain ⟨bracket, rfl, isBracket⟩ := after?_char_eq_some opened
    rw [after?_barring, Option.ite_none_left_eq_some] at closed
    obtain ⟨notClosed, closed⟩ := closed
    obtain ⟨inside, c, rfl, isLast, fails⟩ := after?_through_char_eq_some_iff.mp closed
    obtain rfl : c = '>' := of_decide_eq_true isLast
    obtain rfl : bracket = '<' := of_decide_eq_true isBracket
    refine ⟨'<' :: (inside ++ ['>']), ⟨inside, ?_, fun member => fails _ member rfl, rfl⟩, by simp⟩
    rintro rfl
    exact notClosed rfl
  · rintro ⟨_, ⟨inside, nonempty, unclosed, rfl⟩, rfl⟩
    have closes : (through (char isTagEnd)).after? (inside ++ '>' :: after) = some after := by
      refine after?_through_char_eq_some_iff.mpr ⟨inside, '>', rfl, rfl, fun c member closed => ?_⟩
      obtain rfl : c = '>' := of_decide_eq_true closed
      exact unclosed member
    have notClosed : ¬ (inside ++ '>' :: after).head?.any isTagEnd = true := by
      cases inside with
      | nil => exact absurd rfl nonempty
      | cons c inside =>
          intro closed
          obtain rfl : c = '>' := of_decide_eq_true closed
          exact unclosed List.mem_cons_self
    rw [List.cons_append, List.append_assoc, List.singleton_append, anyTag, after?_seq,
      after?_char_cons, if_pos (by decide), Option.bind_some, after?_barring, if_neg notClosed]
    exact closes

theorem tagsRemoved_removeAll (text : List Char) : TagsRemoved text (anyTag.removeAll text) := by
  fun_induction removeAll anyTag text with
  | case1 => exact .nil
  | case2 c rest after found restIH =>
      obtain ⟨tag, isTag, split⟩ := anyTag_after?_eq_some_iff.mp found
      rw [split]
      exact .remove isTag restIH
  | case3 c rest _ restIH => exact .keep c restIH

/-- A closing bracket opens no tag. -/
theorem removeAll_anyTag_close (rest : List Char) :
    anyTag.removeAll ('>' :: rest) = '>' :: anyTag.removeAll rest :=
  removeAll_cons_of_none rfl

theorem not_hasTag_removeAll (text : List Char) : ¬ HasTag (anyTag.removeAll text) := by
  fun_induction removeAll anyTag text with
  | case1 =>
      rintro ⟨tag, ⟨inside, _, _, rfl⟩, isInfix⟩
      cases List.infix_nil.mp isInfix
  | case2 c rest after found restIH => exact restIH
  | case3 c rest missing restIH =>
      rintro ⟨tag, isTag, isInfix⟩
      rcases List.infix_cons_iff.mp isInfix with isPrefix | later
      · -- A tag that begins here would end at a bracket that was there before.
        obtain ⟨inside, nonempty, unclosed, rfl⟩ := isTag
        obtain ⟨rfl, tailPrefix⟩ := List.cons_prefix_cons.mp isPrefix
        have closing : '>' ∈ inside ++ ['>'] := by simp
        have closes : '>' ∈ rest := (tagsRemoved_removeAll rest).subset (tailPrefix.subset closing)
        obtain ⟨front, after, rfl, frontUnclosed⟩ := List.eq_append_cons_of_mem closes
        by_cases direct : front = []
        · subst direct
          rw [List.nil_append, removeAll_anyTag_close] at tailPrefix
          cases inside with
          | nil => exact nonempty rfl
          | cons d inside =>
              obtain ⟨rfl, _⟩ := List.cons_prefix_cons.mp tailPrefix
              exact unclosed List.mem_cons_self
        · have found : anyTag.after? ('<' :: (front ++ '>' :: after)) = some after :=
            anyTag_after?_eq_some_iff.mpr
              ⟨'<' :: (front ++ ['>']), ⟨front, direct, frontUnclosed, rfl⟩, by simp⟩
          cases missing.symm.trans found
      · exact restIH ⟨tag, isTag, later⟩

theorem removeAll_anyTag_eq_self_iff {text : List Char} :
    anyTag.removeAll text = text ↔ ¬ HasTag text := by
  constructor
  · intro same
    rw [← same]
    exact not_hasTag_removeAll text
  · intro tagless
    refine removeAll_eq_self fun rest isSuffix => ?_
    cases found : anyTag.after? rest with
    | none => rfl
    | some after =>
        obtain ⟨tag, isTag, rfl⟩ := anyTag_after?_eq_some_iff.mp found
        exact absurd ⟨tag, isTag, (List.prefix_append tag after).isInfix.trans isSuffix.isInfix⟩
          tagless

end Stencil.Markup
