import Mathlib.Data.List.Infix
import Stencil.Proofs.Text.Runs
import Stencil.Text.Truncate

namespace Stencil.Text

/-! Units of a text, one after the other.

Where a unit ends depends only on the unit itself and on the one character behind it.  So the units
of a text that is cut behind one of them are those up to the cut (`Cuts.front`), and a text that
goes on has no fewer units (`Cuts.length_le`).
-/

variable {next : TakeUnit} {text taken rest : List Char} {units : List (List Char)} {count : Nat}

theorem Stops.of_prefix {test : Char → Bool} {front : List Char} (stops : Stops test rest)
    (isFront : front <+: rest) : Stops test front := by
  obtain ⟨behind, rfl⟩ := isFront
  cases front with
  | nil => exact stops_nil
  | cons c front => exact stops_cons.mpr (stops_cons.mp stops)

theorem Stops.append {test : Char → Bool} (stops : Stops test rest) (nonempty : rest ≠ [])
    (more : List Char) : Stops test (rest ++ more) := by
  obtain ⟨c, rest, rfl⟩ := List.exists_cons_of_ne_nil nonempty
  exact stops_cons.mpr (stops_cons.mp stops)

section Closed

variable {inside : Char → Bool} {closing : Option Char → Char → Bool}
  {gap body ending : List Char}

/-- Takes the next run of characters that pass a test, with what stands before it and the run of
closing characters behind it.  Which characters close depends on the first one. -/
def takeClosed (inside : Char → Bool) (closing : Option Char → Char → Bool) : TakeUnit :=
  fun text =>
    let rest := text.dropWhile (!inside ·)
    let tail := rest.dropWhile inside
    if rest = [] then none
    else some (text.takeWhile (!inside ·) ++ (rest.takeWhile inside ++
      tail.takeWhile (closing tail.head?)), tail.dropWhile (closing tail.head?))

/-- The parts of a unit in front of the rest of a text. -/
structure IsUnit (inside : Char → Bool) (closing : Option Char → Char → Bool)
    (gap body ending rest : List Char) : Prop where
  gap_outside : ∀ c ∈ gap, inside c = false
  body_nonempty : body ≠ []
  body_inside : ∀ c ∈ body, inside c = true
  body_stops : Stops inside (ending ++ rest)
  ending_closes : ∀ c ∈ ending, closing (ending ++ rest).head? c = true
  ending_stops : Stops (closing (ending ++ rest).head?) rest

theorem takeClosed_eq_none_iff :
    takeClosed inside closing text = none ↔ ∀ c ∈ text, inside c = false := by
  have nothing : text.dropWhile (!inside ·) = [] ↔ ∀ c ∈ text, inside c = false := by
    simp
  rw [← nothing, takeClosed]
  split <;> simp_all

theorem isUnit_of_takeClosed (found : takeClosed inside closing text = some (taken, rest)) :
    ∃ gap body ending, IsUnit inside closing gap body ending rest ∧
      taken = gap ++ (body ++ ending) ∧ text = gap ++ (body ++ (ending ++ rest)) := by
  simp only [takeClosed, Option.ite_none_left_eq_some, Option.some.injEq, Prod.mk.injEq] at found
  obtain ⟨some, rfl, rfl⟩ := found
  have whole {test : Char → Bool} (text : List Char) :
      text.takeWhile test ++ text.dropWhile test = text := List.takeWhile_append_dropWhile
  refine ⟨_, _, _, ⟨?_, ?_, ?_, ?_, ?_, ?_⟩, rfl, ?_⟩
  · intro c member
    simpa using List.mem_takeWhile_imp member
  · have stops := stops_dropWhile (!inside ·) text
    obtain ⟨c, others, shape⟩ := List.exists_cons_of_ne_nil some
    rw [shape, stops_cons, Bool.not_eq_false'] at stops
    rw [shape, List.takeWhile_cons_of_pos stops]
    exact List.cons_ne_nil _ _
  · exact fun c member => List.mem_takeWhile_imp member
  · rw [whole]
    exact stops_dropWhile inside _
  · rw [whole]
    exact fun c member => List.mem_takeWhile_imp member
  · rw [whole]
    exact stops_dropWhile _ _
  · rw [whole, whole, whole]

namespace IsUnit

variable (isUnit : IsUnit inside closing gap body ending rest)

include isUnit

theorem takeClosed_eq : takeClosed inside closing (gap ++ (body ++ (ending ++ rest))) =
    some (gap ++ (body ++ ending), rest) := by
  have gapOutside : ∀ c ∈ gap, (!inside c) = true := by simpa using isUnit.gap_outside
  have bodyStops : Stops (!inside ·) (body ++ (ending ++ rest)) := by
    obtain ⟨c, others, rfl⟩ := List.exists_cons_of_ne_nil isUnit.body_nonempty
    rw [List.cons_append, stops_cons, isUnit.body_inside c List.mem_cons_self]
    rfl
  have some : body ++ (ending ++ rest) ≠ [] := by simp [isUnit.body_nonempty]
  rw [takeClosed]
  simp only [takeWhile_append_stops gapOutside bodyStops,
    dropWhile_append_stops gapOutside bodyStops, if_neg some,
    takeWhile_append_stops isUnit.body_inside isUnit.body_stops,
    dropWhile_append_stops isUnit.body_inside isUnit.body_stops,
    takeWhile_append_stops isUnit.ending_closes isUnit.ending_stops,
    dropWhile_append_stops isUnit.ending_closes isUnit.ending_stops]

theorem front {front : List Char} (isFront : front <+: rest) :
    IsUnit inside closing gap body ending front where
  gap_outside := isUnit.gap_outside
  body_nonempty := isUnit.body_nonempty
  body_inside := isUnit.body_inside
  body_stops := isUnit.body_stops.of_prefix ((List.prefix_append_right_inj ending).mpr isFront)
  ending_closes := by
    cases ending with
    | nil => simp
    | cons => exact isUnit.ending_closes
  ending_stops := by
    cases ending with
    | nil =>
        cases front with
        | nil => exact stops_nil
        | cons c front =>
            obtain ⟨behind, rfl⟩ := isFront
            exact isUnit.ending_stops.of_prefix (List.prefix_append _ _)
    | cons => exact isUnit.ending_stops.of_prefix isFront

theorem longer (nonempty : rest ≠ []) (more : List Char) :
    IsUnit inside closing gap body ending (rest ++ more) := by
  have same : (ending ++ (rest ++ more)).head? = (ending ++ rest).head? := by
    obtain ⟨c, others, rfl⟩ := List.exists_cons_of_ne_nil nonempty
    cases ending <;> rfl
  constructor
  · exact isUnit.gap_outside
  · exact isUnit.body_nonempty
  · exact isUnit.body_inside
  · rw [← List.append_assoc]
    exact isUnit.body_stops.append (by simp [nonempty]) more
  · rw [same]
    exact isUnit.ending_closes
  · rw [same]
    exact isUnit.ending_stops.append nonempty more

end IsUnit

end Closed

/-- A unit is not empty, and what stands behind the first character behind it does not matter. -/
structure Lawful (next : TakeUnit) : Prop where
  nonempty : ∀ {text taken rest}, next text = some (taken, rest) → taken ≠ []
  whole : ∀ {text taken rest}, next text = some (taken, rest) → text = taken ++ rest
  front : ∀ {text taken rest front}, next text = some (taken, rest) → front <+: rest →
    next (taken ++ front) = some (taken, front)
  longer : ∀ {text taken rest}, next text = some (taken, rest) → rest ≠ [] →
    ∀ more, next (text ++ more) = some (taken, rest ++ more)
  missing : ∀ {text more}, next (text ++ more) = none → next text = none

theorem lawful_takeClosed (inside : Char → Bool) (closing : Option Char → Char → Bool) :
    Lawful (takeClosed inside closing) where
  nonempty found := by
    obtain ⟨_, _, _, isUnit, rfl, _⟩ := isUnit_of_takeClosed found
    simp [isUnit.body_nonempty]
  whole found := by
    obtain ⟨_, _, _, _, rfl, rfl⟩ := isUnit_of_takeClosed found
    simp only [List.append_assoc]
  front found isFront := by
    obtain ⟨_, _, _, isUnit, rfl, _⟩ := isUnit_of_takeClosed found
    simpa only [List.append_assoc] using (isUnit.front isFront).takeClosed_eq
  longer found nonempty more := by
    obtain ⟨_, _, _, isUnit, rfl, rfl⟩ := isUnit_of_takeClosed found
    simpa only [List.append_assoc] using (isUnit.longer nonempty more).takeClosed_eq
  missing found := by
    rw [takeClosed_eq_none_iff] at found ⊢
    exact fun c member => found c (List.mem_append_left _ member)

theorem takeWhile_dropWhile_isEmpty (test : Char → Bool) (text : List Char) :
    ((text.dropWhile (!test ·)).takeWhile test).isEmpty = true ↔
      text.dropWhile (!test ·) = [] := by
  have stops := stops_dropWhile (!test ·) text
  cases shape : text.dropWhile (!test ·) with
  | nil => simp
  | cons c rest =>
      rw [shape, stops_cons, Bool.not_eq_false'] at stops
      simp [stops]

theorem takeWord_eq : takeWord = takeClosed isWordUnit fun _ _ => false := by
  funext text
  have nothing (left : List Char) : left.takeWhile (fun _ => false) = [] ∧
      left.dropWhile (fun _ => false) = left := by
    cases left <;> exact ⟨rfl, rfl⟩
  simp only [takeWord, takeClosed, takeWhile_dropWhile_isEmpty, nothing, List.append_nil]

theorem takeSentence_eq : takeSentence = takeClosed isSentenceChar fun closing =>
    if closing.any endsSentence then endsSentence else endsLine := by
  funext text
  simp only [takeSentence, takeClosed, takeWhile_dropWhile_isEmpty, List.append_assoc]

/-- The units of a text, one behind the other. -/
inductive Cuts (next : TakeUnit) : List Char → List (List Char) → Prop where
  | done {text : List Char} : next text = none → Cuts next text []
  | unit {text taken rest : List Char} {units : List (List Char)} :
      next text = some (taken, rest) → Cuts next rest units → Cuts next text (taken :: units)

namespace Cuts

theorem takeUnits_eq (cuts : Cuts next text units) (count : Nat) :
    takeUnits next count text =
      if count ≤ units.length then some (units.take count).flatten else none := by
  induction cuts generalizing count with
  | done missing =>
      cases count with
      | zero => rfl
      | succ count => simp [takeUnits, missing]
  | unit found _ restIH =>
      cases count with
      | zero => rfl
      | succ count =>
          simp only [takeUnits, found, restIH, Option.bind_eq_bind, Option.bind_some,
            List.length_cons, Nat.add_le_add_iff_right]
          split <;> rfl

theorem unique (cuts : Cuts next text units) {others : List (List Char)}
    (otherCuts : Cuts next text others) : others = units := by
  induction cuts generalizing others with
  | done missing =>
      cases otherCuts with
      | done => rfl
      | unit found => rw [missing] at found; contradiction
  | unit found _ restIH =>
      cases otherCuts with
      | done missing => rw [missing] at found; contradiction
      | unit otherFound otherRest =>
          rw [found] at otherFound
          cases otherFound
          rw [restIH otherRest]

variable (lawful : Lawful next)

include lawful

theorem exists_units (text : List Char) : ∃ units, Cuts next text units := by
  induction size : text.length using Nat.strongRecOn generalizing text with
  | ind size sizeIH =>
      cases found : next text with
      | none => exact ⟨[], .done found⟩
      | some unit =>
          have nonempty := List.length_pos_iff.mpr (lawful.nonempty found)
          have whole := congrArg List.length (lawful.whole found)
          rw [List.length_append] at whole
          obtain ⟨units, cuts⟩ := sizeIH unit.2.length (by omega) unit.2 rfl
          exact ⟨unit.1 :: units, .unit found cuts⟩

theorem nil : Cuts next [] [] := by
  refine .done ?_
  cases found : next [] with
  | none => rfl
  | some unit =>
      have whole := lawful.whole found
      exact absurd (List.append_eq_nil_iff.mp whole.symm).1 (lawful.nonempty found)

theorem flatten_prefix (cuts : Cuts next text units) : units.flatten <+: text := by
  induction cuts with
  | done => exact List.nil_prefix
  | unit found _ restIH =>
      rw [lawful.whole found, List.flatten_cons]
      exact (List.prefix_append_right_inj _).mpr restIH

/-- The first units of a text are the units of the text up to their end. -/
theorem front (cuts : Cuts next text units) (count : Nat) :
    Cuts next (units.take count).flatten (units.take count) := by
  induction cuts generalizing count with
  | done =>
      rw [List.take_nil]
      exact nil lawful
  | unit found rest restIH =>
      cases count with
      | zero => exact nil lawful
      | succ count =>
          have isFront := ((List.take_prefix count _).flatten).trans (rest.flatten_prefix lawful)
          exact .unit (lawful.front found isFront) (restIH count)

/-- A text that goes on has no fewer units. -/
theorem length_le (cuts : Cuts next text units) {more : List Char} {others : List (List Char)}
    (otherCuts : Cuts next (text ++ more) others) : units.length ≤ others.length := by
  induction cuts generalizing more others with
  | done => exact Nat.zero_le _
  | @unit text taken rest units found restCuts restIH =>
      cases otherCuts with
      | done missing =>
          rw [lawful.missing missing] at found
          contradiction
      | unit otherFound otherRest =>
          by_cases last : rest = []
          · -- A unit that ends the text may be longer in the other one, but no unit follows it here.
            subst last
            have none := restCuts.unique (nil lawful)
            rw [← none]
            exact Nat.le_add_left _ _
          · rw [lawful.longer found last] at otherFound
            cases otherFound
            exact Nat.succ_le_succ (restIH otherRest)

end Cuts

section Trimming

open Unicode

theorem trimEnd_append {last : Char} (kept : isWhiteSpace last = false) (text : List Char) :
    trimEnd (text ++ [last]) = text ++ [last] := by
  induction text with
  | nil => simp [trimEnd, kept]
  | cons c text textIH =>
      rw [List.cons_append, trimEnd, textIH]
      split
      · next none => simp at none
      · rfl

theorem trimEnd_mono {front text : List Char} (isFront : front <+: text) :
    trimEnd front <+: trimEnd text := by
  induction front generalizing text with
  | nil => exact List.nil_prefix
  | cons c front frontIH =>
      obtain ⟨behind, rfl⟩ := isFront
      have restFront := frontIH (List.prefix_append front behind)
      rw [List.cons_append, trimEnd, trimEnd]
      cases kept : trimEnd front with
      | nil =>
          cases trimEnd (front ++ behind) with
          | nil => exact List.prefix_rfl
          | cons first others =>
              simp only
              split
              · exact List.nil_prefix
              · exact List.cons_prefix_cons.mpr ⟨rfl, List.nil_prefix⟩
      | cons first others =>
          rw [kept] at restFront
          cases more : trimEnd (front ++ behind) with
          | nil => rw [more] at restFront; simp at restFront
          | cons =>
              rw [more] at restFront
              exact List.cons_prefix_cons.mpr ⟨rfl, restFront⟩

theorem mem_codes_of_inRanges {code : Nat} {ranges : List (Nat × Nat)}
    (found : inRanges code ranges = true) :
    code ∈ ranges.flatMap fun range => List.range' range.1 (range.2 + 1 - range.1) := by
  induction ranges with
  | nil => cases found
  | cons range ranges rangesIH =>
      rw [inRanges] at found
      rw [List.flatMap_cons, List.mem_append, List.mem_range'_1]
      split at found
      · contradiction
      · split at found
        · exact .inl (by omega)
        · exact .inr (rangesIH found)

theorem not_isWordUnit_of_isWhiteSpace {c : Char} (space : isWhiteSpace c = true) :
    isWordUnit c = false := by
  have apart : ∀ code ∈ whiteSpaceRanges.flatMap fun range =>
      List.range' range.1 (range.2 + 1 - range.1), code ≠ '-'.toNat ∧
        inRanges code alphabeticRanges = false ∧ inRanges code wordExtraRanges = false := by
    decide +kernel
  obtain ⟨noHyphen, notAlphabetic, notExtra⟩ := apart c.toNat (mem_codes_of_inRanges space)
  have other : c ≠ '-' := fun same => noHyphen (congrArg Char.toNat same)
  simp [isWordUnit, isWord, isAlphabetic, notAlphabetic, notExtra, other]

end Trimming

namespace Cuts

theorem truncateAfter_eq (cuts : Cuts next text units) (count : Nat) :
    truncateAfter next count text =
      if count ≤ units.length then Unicode.trimEnd (units.take count).flatten else text := by
  rw [truncateAfter, cuts.takeUnits_eq]
  by_cases enough : count ≤ units.length
  · rw [if_pos enough, if_pos enough]
  · rw [if_neg enough, if_neg enough]

end Cuts

theorem truncateAfter_prefix (lawful : Lawful next) (count : Nat) (text : List Char) :
    truncateAfter next count text <+: text := by
  obtain ⟨units, cuts⟩ := Cuts.exists_units lawful text
  rw [cuts.truncateAfter_eq]
  split
  · have isFront := ((List.take_prefix count units).flatten).trans (cuts.flatten_prefix lawful)
    exact (Unicode.trimEnd_prefix_of _).trans isFront
  · exact List.prefix_rfl

theorem truncateAfter_prefix_succ (lawful : Lawful next) (count : Nat) (text : List Char) :
    truncateAfter next count text <+: truncateAfter next (count + 1) text := by
  obtain ⟨units, cuts⟩ := Cuts.exists_units lawful text
  rw [cuts.truncateAfter_eq (count + 1)]
  split
  · next enough =>
      rw [cuts.truncateAfter_eq, if_pos (Nat.le_of_succ_le enough)]
      exact trimEnd_mono (List.take_prefix_take_left (Nat.le_succ count)).flatten
  · exact truncateAfter_prefix lawful count text

/-- A text cut after a number of units has no more of them, even if trimming took the end of the
last one. -/
theorem length_units_truncateAfter_le (lawful : Lawful next) (count : Nat) {text : List Char}
    {units : List (List Char)} (cuts : Cuts next (truncateAfter next count text) units) :
    units.length ≤ count := by
  obtain ⟨all, allCuts⟩ := Cuts.exists_units lawful text
  rw [allCuts.truncateAfter_eq] at cuts
  split at cuts
  · obtain ⟨trimmed, whole⟩ := Unicode.trimEnd_prefix_of (all.take count).flatten
    have front := allCuts.front lawful count
    rw [← whole] at front
    exact (cuts.length_le lawful front).trans (List.length_take_le count all)
  · next few =>
      rw [allCuts.unique cuts]
      omega

theorem lawful_takeWord : Lawful takeWord := by
  rw [takeWord_eq]
  exact lawful_takeClosed _ _

theorem lawful_takeSentence : Lawful takeSentence := by
  rw [takeSentence_eq]
  exact lawful_takeClosed _ _

theorem takeWord_ends (found : takeWord text = some (taken, rest)) :
    ∃ front last, taken = front ++ [last] ∧ isWordUnit last = true := by
  rw [takeWord_eq] at found
  obtain ⟨gap, body, ending, isUnit, rfl, _⟩ := isUnit_of_takeClosed found
  have noEnding : ending = [] := by
    cases ending with
    | nil => rfl
    | cons c ending => exact absurd (isUnit.ending_closes c List.mem_cons_self) Bool.false_ne_true
  subst noEnding
  have split := List.dropLast_concat_getLast isUnit.body_nonempty
  refine ⟨gap ++ body.dropLast, body.getLast isUnit.body_nonempty, ?_, ?_⟩
  · rw [List.append_assoc, split, List.append_nil]
  · exact isUnit.body_inside _ (List.getLast_mem _)

theorem Cuts.words_end (cuts : Cuts takeWord text units) (some : units ≠ []) :
    ∃ front last, units.flatten = front ++ [last] ∧ isWordUnit last = true := by
  induction cuts with
  | done => contradiction
  | @unit _ _ _ units found _ restIH =>
      cases units with
      | nil =>
          rw [List.flatten_singleton]
          exact takeWord_ends found
      | cons second units =>
          obtain ⟨front, last, ends, isWord⟩ := restIH (List.cons_ne_nil _ _)
          exact ⟨_ ++ front, last, by rw [List.flatten_cons, ends, List.append_assoc], isWord⟩

/-- No white space stands at the end of a word, so that nothing is trimmed there. -/
theorem Cuts.trimEnd_words (cuts : Cuts takeWord text units) :
    Unicode.trimEnd units.flatten = units.flatten := by
  by_cases some : units = []
  · rw [some]
    rfl
  · obtain ⟨front, last, ends, isWord⟩ := cuts.words_end some
    have kept : Unicode.isWhiteSpace last = false := by
      cases space : Unicode.isWhiteSpace last with
      | false => rfl
      | true =>
          rw [not_isWordUnit_of_isWhiteSpace space] at isWord
          contradiction
    rw [ends, trimEnd_append kept]

/-- The words of a text cut after a number of words are the first words of the text. -/
theorem Cuts.truncateAfter_words (cuts : Cuts takeWord text units) (count : Nat) :
    Cuts takeWord (truncateAfter takeWord count text) (units.take count) := by
  have front := cuts.front lawful_takeWord count
  rw [cuts.truncateAfter_eq]
  split
  · rwa [front.trimEnd_words]
  · next few => rwa [List.take_of_length_le (by omega)]

end Stencil.Text
