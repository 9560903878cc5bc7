import Stencil.Proofs.Template.Chains

namespace Stencil

/-! The parts that a text is cut into.

The parts of a text are told by what they are and not by how they are found: joined by the separator
they are the text, none of them has a separator of its own, and none but the last leaves a backslash
over that would take the separator behind it.  No other parts of the text are like this.
-/

/-- The character stands in the text by itself: it is no backslash, and no backslash takes it. -/
def StandsAlone (c : Char) (text : List Char) : Prop :=
  c ≠ '\\' ∧ .plain c ∈ glyphs text

/-- The parts make up the text, and each separator in it that stands alone lies between two of
them. -/
structure PartsOf (separator : Char) (text : List Char) (parts : List (List Char)) : Prop where
  joined : [separator].intercalate parts = text
  undivided : ∀ part ∈ parts, ¬ StandsAlone separator part
  complete : ∀ part ∈ parts.dropLast, ¬ EndsInBackslash part

namespace Glyph

/-- The glyphs other than a backslash that is left over. -/
def Whole (glyph : Glyph) : Prop :=
  glyph ≠ .plain '\\'

theorem glyphs_source_append {glyph : Glyph} (whole : glyph.Whole) (rest : List Char) :
    glyphs (glyph.source ++ rest) = glyph :: glyphs rest := by
  cases glyph with
  | plain c =>
      have notBackslash : c ≠ '\\' := fun same => whole (by rw [same])
      exact glyphs_plain notBackslash rest
  | pair c => rfl

theorem standsAlone_source_append {glyph : Glyph} (whole : glyph.Whole) {c : Char}
    (other : glyph ≠ .plain c) {rest : List Char} :
    StandsAlone c (glyph.source ++ rest) ↔ StandsAlone c rest := by
  rw [StandsAlone, StandsAlone, glyphs_source_append whole, List.mem_cons,
    or_iff_right (Ne.symm other)]

theorem endsInBackslash_source_append {glyph : Glyph} (whole : glyph.Whole) {rest : List Char} :
    EndsInBackslash (glyph.source ++ rest) ↔ EndsInBackslash rest := by
  rw [EndsInBackslash, EndsInBackslash, glyphs_source_append whole, List.mem_cons,
    or_iff_right (Ne.symm whole)]

end Glyph

namespace PartsOf

variable {separator : Char} {text first : List Char} {parts : List (List Char)}

/-- A glyph in front of the text belongs to the first part. -/
theorem extend (partsOf : PartsOf separator text (first :: parts)) {glyph : Glyph}
    (whole : glyph.Whole) (other : glyph ≠ .plain separator) :
    PartsOf separator (glyph.source ++ text) ((glyph.source ++ first) :: parts) := by
  obtain ⟨joined, undivided, complete⟩ := partsOf
  refine ⟨?_, ?_, ?_⟩
  · rw [← joined]
    cases parts with
    | nil => simp
    | cons next parts => simp
  · rw [List.forall_mem_cons] at undivided ⊢
    rwa [Glyph.standsAlone_source_append whole other]
  · cases parts with
    | nil => simp
    | cons next parts =>
        rw [List.dropLast_cons_cons, List.forall_mem_cons] at complete ⊢
        rwa [Glyph.endsInBackslash_source_append whole]

/-- A separator in front of the text ends an empty part. -/
theorem divide (nonempty : parts ≠ []) (partsOf : PartsOf separator text parts) :
    PartsOf separator (separator :: text) ([] :: parts) := by
  obtain ⟨joined, undivided, complete⟩ := partsOf
  refine ⟨?_, ?_, ?_⟩
  · rw [List.intercalate_cons_of_ne_nil nonempty, joined]
    rfl
  · rw [List.forall_mem_cons]
    exact ⟨by simp [StandsAlone, glyphs], undivided⟩
  · rw [List.dropLast_cons_of_ne_nil nonempty, List.forall_mem_cons]
    exact ⟨by simp [EndsInBackslash, glyphs], complete⟩

/-- A text that the separator does not divide is its own only part. -/
theorem single (undivided : ¬ StandsAlone separator text) : PartsOf separator text [text] :=
  ⟨List.intercalate_singleton, List.forall_mem_singleton.mpr undivided, by simp⟩

end PartsOf

section Cutting

variable {separator : Char}

theorem not_standsAlone_backslash (text : List Char) : ¬ StandsAlone '\\' text :=
  fun alone => alone.1 rfl

/-- A backslash never separates, since it takes the next character. -/
theorem splitUnescaped_backslash (text : List Char) : splitUnescaped '\\' text = [text] := by
  suffices cut : ∀ escaped, cutUnescaped '\\' escaped text = (text, []) by
    rw [splitUnescaped, cut]
  induction text with
  | nil => exact fun escaped => rfl
  | cons c rest restIH =>
      intro escaped
      rw [cutUnescaped, if_neg (by simp), restIH]

theorem splitUnescaped_of_undivided (notBackslash : separator ≠ '\\') {text : List Char}
    (undivided : ¬ StandsAlone separator text) : splitUnescaped separator text = [text] := by
  replace undivided : .plain separator ∉ glyphs text := fun alone =>
    undivided ⟨notBackslash, alone⟩
  suffices cut : cutUnescaped separator false text = (text, []) by
    rw [splitUnescaped, cut]
  fun_induction glyphs text with
  | case1 => rfl
  | case2 => simp [cutUnescaped, Ne.symm notBackslash]
  | case3 c rest restIH =>
      rw [List.mem_cons, not_or] at undivided
      rw [cutUnescaped_escaped, restIH undivided.2]
  | case4 c rest notEnd notPair restIH =>
      rw [List.mem_cons, not_or] at undivided
      have different : c ≠ separator := fun same => undivided.1 (by rw [same])
      rw [cutUnescaped_plain (ne_backslash_of_unpaired notEnd notPair) different,
        restIH undivided.2]

theorem partsOf_splitUnescaped (notBackslash : separator ≠ '\\') (text : List Char) :
    PartsOf separator text (splitUnescaped separator text) := by
  unfold splitUnescaped
  fun_induction glyphs text with
  | case1 => exact .single (by simp [StandsAlone, glyphs])
  | case2 => exact .single (by simp [StandsAlone, glyphs])
  | case3 c rest restIH =>
      rw [cutUnescaped_escaped]
      have whole : Glyph.Whole (.pair c) := Glyph.noConfusion
      exact restIH.extend whole Glyph.noConfusion
  | case4 c rest notEnd notPair restIH =>
      have plain : c ≠ '\\' := ne_backslash_of_unpaired notEnd notPair
      by_cases here : c = separator
      · rw [here, cutUnescaped_separator notBackslash]
        exact restIH.divide (List.cons_ne_nil _ _)
      · rw [cutUnescaped_plain plain here]
        have whole : Glyph.Whole (.plain c) := fun same => plain (Glyph.plain.inj same)
        exact restIH.extend whole fun same => here (Glyph.plain.inj same)

theorem PartsOf.eq_splitUnescaped (notBackslash : separator ≠ '\\') {text : List Char}
    {parts : List (List Char)} (nonempty : parts ≠ []) (partsOf : PartsOf separator text parts) :
    parts = splitUnescaped separator text := by
  obtain ⟨rfl, undivided, complete⟩ := partsOf
  induction parts with
  | nil => contradiction
  | cons first parts partsIH =>
      rw [List.forall_mem_cons] at undivided
      have whole := splitUnescaped_of_undivided notBackslash undivided.1
      cases parts with
      | nil => rw [List.intercalate_singleton, whole]
      | cons next parts =>
          rw [List.dropLast_cons_cons, List.forall_mem_cons] at complete
          have rest := partsIH (List.cons_ne_nil _ _) undivided.2 complete.2
          rw [List.intercalate_cons_cons, List.append_assoc, List.singleton_append,
            splitUnescaped_join notBackslash complete.1, whole, ← rest]
          rfl

end Cutting

/-- The parts that a text is cut into are the only ones that it has; there is always one.  A
backslash as separator leaves the text in one part. -/
theorem eq_splitUnescaped_iff (separator : Char) (text : List Char) (parts : List (List Char)) :
    parts = splitUnescaped separator text ↔
      parts ≠ [] ∧ PartsOf separator text parts ∧ (separator = '\\' → parts = [text]) := by
  by_cases backslash : separator = '\\'
  · subst backslash
    rw [splitUnescaped_backslash]
    constructor
    · rintro rfl
      exact ⟨List.cons_ne_nil _ _, .single (not_standsAlone_backslash text), fun _ => rfl⟩
    · rintro ⟨_, _, whole⟩
      exact whole rfl
  · constructor
    · rintro rfl
      exact ⟨List.cons_ne_nil _ _, partsOf_splitUnescaped backslash text,
        fun same => absurd same backslash⟩
    · rintro ⟨nonempty, partsOf, _⟩
      exact partsOf.eq_splitUnescaped backslash nonempty

example : splitUnescaped ':' "a\\:b\\\\:c\\".toList =
    ["a\\:b\\\\".toList, "c\\".toList] := by
  decide

end Stencil
