import Stencil.Markup.Strip
import Stencil.Proofs.Markup.Removing
import Stencil.Proofs.Text.Runs

namespace Stencil.Markup

open Text (stops_cons stops_dropWhile dropWhile_append_stops)

/-! The constructs of markup stay what they are, whatever follows them.

A word, a tag or a closed comment ends where it ends, so the same characters are read again in front
of any other text (`Pattern.Exact`).  An attribute may go on in what follows, but is read there too
(`Pattern.Persistent`).  Every combinator of patterns keeps one or both of this.
-/

namespace Pattern

variable {pattern first second : Pattern} {test : Char → Bool} {text : List Char}

theorem after?_char_cons (test : Char → Bool) (c : Char) (rest : List Char) :
    (char test).after? (c :: rest) = if test c then some rest else none := rfl

theorem after?_seq (first second : Pattern) (text : List Char) :
    (seq first second).after? text = (first.after? text).bind second.after? := rfl

theorem after?_orElse (first second : Pattern) (text : List Char) :
    (orElse first second).after? text = (first.after? text).or (second.after? text) := rfl

theorem after?_skipping (test : Char → Bool) (pattern : Pattern) (text : List Char) :
    (skipping test pattern).after? text = pattern.after? (text.dropWhile test) := rfl

theorem after?_barring (test : Char → Bool) (pattern : Pattern) (text : List Char) :
    (barring test pattern).after? text =
      if text.head?.any test then none else pattern.after? text := rfl

theorem after?_run_cons (test : Char → Bool) (c : Char) (rest : List Char) :
    (run test).after? (c :: rest) = if test c then some (rest.dropWhile test) else none := rfl

theorem after?_through_cons (pattern : Pattern) (c : Char) (rest : List Char) :
    (through pattern).after? (c :: rest) =
      (pattern.after? (c :: rest)).or ((through pattern).after? rest) := rfl

theorem taken_ne_nil {taken after : List Char}
    (found : pattern.after? (taken ++ after) = some after) : taken ≠ [] := by
  rintro rfl
  exact Nat.lt_irrefl _ (pattern.shorter found)

/-- A match is the front of the text, and is the match whatever follows instead. -/
structure Exact (pattern : Pattern) : Prop where
  takes : ∀ {text after : List Char}, pattern.after? text = some after →
    ∃ taken, text = taken ++ after ∧ ∀ rest, pattern.after? (taken ++ rest) = some rest

theorem Exact.persistent (exact : pattern.Exact) : pattern.Persistent := by
  refine ⟨fun {text after} found => ?_⟩
  obtain ⟨taken, split, again⟩ := exact.takes found
  exact ⟨taken, split, fun rest => Option.isSome_of_eq_some (again rest)⟩

theorem after?_char_eq_some {after : List Char} (found : (char test).after? text = some after) :
    ∃ c, text = c :: after ∧ test c = true := by
  cases text with
  | nil => cases found
  | cons c rest =>
      rw [after?_char_cons, Option.ite_none_right_eq_some, Option.some.injEq] at found
      obtain ⟨passes, rfl⟩ := found
      exact ⟨c, rfl, passes⟩

theorem exact_char (test : Char → Bool) : (char test).Exact := by
  refine ⟨fun {text after} found => ?_⟩
  obtain ⟨c, rfl, passes⟩ := after?_char_eq_some found
  exact ⟨[c], rfl, fun rest => if_pos passes⟩

theorem Exact.seq (exact : first.Exact) (secondExact : second.Exact) :
    (seq first second).Exact := by
  refine ⟨fun {text after} found => ?_⟩
  obtain ⟨middle, firstFound, secondFound⟩ := Option.bind_eq_some_iff.mp found
  obtain ⟨front, rfl, frontAgain⟩ := exact.takes firstFound
  obtain ⟨back, rfl, backAgain⟩ := secondExact.takes secondFound
  refine ⟨front ++ back, (List.append_assoc ..).symm, fun rest => ?_⟩
  rw [List.append_assoc, after?_seq, frontAgain, Option.bind_some, backAgain]

theorem Exact.seq_persistent (exact : first.Exact) (persistent : second.Persistent) :
    (Pattern.seq first second).Persistent := by
  refine ⟨fun {text after} found => ?_⟩
  obtain ⟨middle, firstFound, secondFound⟩ := Option.bind_eq_some_iff.mp found
  obtain ⟨front, rfl, frontAgain⟩ := exact.takes firstFound
  obtain ⟨back, rfl, backAgain⟩ := persistent.takes secondFound
  refine ⟨front ++ back, (List.append_assoc ..).symm, fun rest => ?_⟩
  rw [List.append_assoc, after?_seq, frontAgain, Option.bind_some]
  exact backAgain rest

theorem Persistent.orElse (left : first.Persistent) (right : second.Persistent) :
    (orElse first second).Persistent := by
  refine ⟨fun {text after} found => ?_⟩
  rcases Option.or_eq_some_iff.mp found with firstFound | ⟨_, secondFound⟩
  · obtain ⟨taken, split, again⟩ := left.takes firstFound
    exact ⟨taken, split, fun rest => by rw [after?_orElse, Option.isSome_or, again, Bool.true_or]⟩
  · obtain ⟨taken, split, again⟩ := right.takes secondFound
    exact ⟨taken, split, fun rest => by rw [after?_orElse, Option.isSome_or, again, Bool.or_true]⟩

/-- What a match behind skipped characters begins with is not skipped. -/
theorem dropWhile_skipped {taken after : List Char} (split : text.dropWhile test = taken ++ after)
    (nonempty : taken ≠ []) :
    text = (text.takeWhile test ++ taken) ++ after ∧
      ∀ rest, ((text.takeWhile test ++ taken) ++ rest).dropWhile test = taken ++ rest := by
  refine ⟨?_, fun rest => ?_⟩
  · rw [List.append_assoc, ← split, List.takeWhile_append_dropWhile]
  · rw [List.append_assoc]
    refine dropWhile_append_stops (fun c => List.mem_takeWhile_imp) ?_
    have stops := stops_dropWhile test text
    cases taken with
    | nil => exact absurd rfl nonempty
    | cons c taken =>
        rw [split, List.cons_append] at stops
        exact stops_cons.mpr (stops_cons.mp stops)

theorem Exact.skipping (exact : pattern.Exact) : (skipping test pattern).Exact := by
  refine ⟨fun {text after} found => ?_⟩
  obtain ⟨taken, split, again⟩ := exact.takes found
  obtain ⟨whole, skips⟩ := dropWhile_skipped split (taken_ne_nil (again after))
  refine ⟨_, whole, fun rest => ?_⟩
  rw [after?_skipping, skips, again]

theorem Persistent.skipping (persistent : pattern.Persistent) :
    (skipping test pattern).Persistent := by
  refine ⟨fun {text after} found => ?_⟩
  obtain ⟨taken, split, again⟩ := persistent.takes found
  rw [after?_skipping, split] at found
  obtain ⟨whole, skips⟩ := dropWhile_skipped split (taken_ne_nil found)
  refine ⟨_, whole, fun rest => ?_⟩
  rw [after?_skipping, skips]
  exact again rest

theorem Exact.barring (exact : pattern.Exact) : (barring test pattern).Exact := by
  refine ⟨fun {text after} found => ?_⟩
  rw [after?_barring, Option.ite_none_left_eq_some] at found
  obtain ⟨allowed, found⟩ := found
  obtain ⟨taken, rfl, again⟩ := exact.takes found
  refine ⟨taken, rfl, fun rest => ?_⟩
  cases taken with
  | nil => exact absurd rfl (taken_ne_nil found)
  | cons c taken => rw [after?_barring, if_neg (by simpa using allowed), again]

/-- What follows a run begins with another character. -/
theorem Persistent.run_seq (persistent : pattern.Persistent) :
    (seq (run test) pattern).Persistent := by
  refine ⟨fun {text after} found => ?_⟩
  cases text with
  | nil => cases found
  | cons c rest =>
      rw [after?_seq, after?_run_cons] at found
      by_cases passes : test c
      · rw [if_pos passes, Option.bind_some, ← after?_skipping] at found
        obtain ⟨taken, split, again⟩ := persistent.skipping.takes found
        refine ⟨c :: taken, by rw [split, List.cons_append], fun other => ?_⟩
        rw [List.cons_append, after?_seq, after?_run_cons, if_pos passes]
        exact again other
      · rw [if_neg passes] at found
        cases found

theorem persistent_run (test : Char → Bool) : (run test).Persistent := by
  refine ⟨fun {text after} found => ?_⟩
  cases text with
  | nil => cases found
  | cons c rest =>
      rw [after?_run_cons, Option.ite_none_right_eq_some, Option.some.injEq] at found
      obtain ⟨passes, rfl⟩ := found
      refine ⟨c :: rest.takeWhile test, ?_, fun rest => ?_⟩
      · rw [List.cons_append, List.takeWhile_append_dropWhile]
      · rw [List.cons_append, after?_run_cons, if_pos passes]
        rfl

theorem Persistent.through (persistent : pattern.Persistent) : (through pattern).Persistent := by
  refine ⟨fun {text after} found => ?_⟩
  induction text with
  | nil => cases found
  | cons c rest restIH =>
      rw [after?_through_cons] at found
      rcases Option.or_eq_some_iff.mp found with here | ⟨_, later⟩
      · obtain ⟨taken, split, again⟩ := persistent.takes here
        refine ⟨taken, split, fun other => ?_⟩
        cases taken with
        | nil => exact absurd rfl (taken_ne_nil (split ▸ here))
        | cons d taken =>
            rw [List.cons_append, after?_through_cons, Option.isSome_or, ← List.cons_append, again,
              Bool.true_or]
      · obtain ⟨taken, split, again⟩ := restIH later
        refine ⟨c :: taken, by rw [split, List.cons_append], fun other => ?_⟩
        rw [List.cons_append, after?_through_cons, Option.isSome_or, again, Bool.or_true]

/-- Everything through the first character that passes a test. -/
theorem after?_through_char_eq_some_iff {after : List Char} :
    (through (char test)).after? text = some after ↔
      ∃ front c, text = front ++ c :: after ∧ test c ∧ ∀ d ∈ front, ¬ test d := by
  induction text with
  | nil =>
      refine iff_of_false (fun found => nomatch found) ?_
      rintro ⟨front, c, split, _⟩
      exact List.append_ne_nil_of_right_ne_nil _ (List.cons_ne_nil _ _) split.symm
  | cons d rest restIH =>
      rw [after?_through_cons, after?_char_cons]
      by_cases passes : test d
      · rw [if_pos passes, Option.some_or, Option.some.injEq]
        constructor
        · rintro rfl
          exact ⟨[], d, rfl, passes, by simp⟩
        · rintro ⟨front, c, split, _, fails⟩
          cases front with
          | nil => exact (List.cons.inj split).2
          | cons e front =>
              cases (List.cons.inj split).1
              exact absurd passes (fails d List.mem_cons_self)
      · rw [if_neg passes, Option.none_or, restIH]
        constructor
        · rintro ⟨front, c, rfl, isLast, fails⟩
          exact ⟨d :: front, c, rfl, isLast, List.forall_mem_cons.mpr ⟨passes, fails⟩⟩
        · rintro ⟨front, c, split, isLast, fails⟩
          cases front with
          | nil =>
              cases (List.cons.inj split).1
              exact absurd isLast passes
          | cons e front =>
              exact ⟨front, c, (List.cons.inj split).2, isLast,
                (List.forall_mem_cons.mp fails).2⟩

theorem exact_through_char (test : Char → Bool) : (through (char test)).Exact := by
  refine ⟨fun {text after} found => ?_⟩
  obtain ⟨front, c, rfl, passes, fails⟩ := after?_through_char_eq_some_iff.mp found
  refine ⟨front ++ [c], by rw [List.append_assoc, List.singleton_append], fun rest => ?_⟩
  rw [List.append_assoc, List.singleton_append]
  exact after?_through_char_eq_some_iff.mpr ⟨front, c, rfl, passes, fails⟩

theorem exact_word (first : Char) (rest : List Char) : (word first rest).Exact := by
  induction rest generalizing first with
  | nil => exact exact_char _
  | cons second rest restIH => exact (exact_char _).seq (restIH second)

end Pattern

open Pattern

theorem exact_exactly (text : String) : (exactly text).Exact := by
  rw [exactly]
  split
  · exact exact_char _
  · exact exact_word _ _

theorem exact_openTag (start : String) : (openTag start).Exact :=
  (exact_exactly start).seq (exact_through_char isTagEnd).barring

theorem exact_closeTag (start : String) : (closeTag start).Exact :=
  (exact_exactly start).seq (exact_char isTagEnd).skipping

theorem persistent_comment : comment.Persistent :=
  ((exact_exactly _).seq_persistent (exact_exactly _).persistent.through).orElse
    ((exact_exactly _).seq_persistent (exact_exactly _).persistent.through)

theorem persistent_cdataSection : cdataSection.Persistent :=
  (exact_exactly _).seq_persistent (exact_exactly _).persistent.through

theorem persistent_cdata : cdata.Persistent :=
  ((exact_exactly _).seq_persistent persistent_cdataSection.skipping).orElse persistent_cdataSection

theorem persistent_element (start close : String) :
    (seq (openTag start) (through (closeTag close))).Persistent :=
  (exact_openTag start).seq_persistent (exact_closeTag close).persistent.through

theorem persistent_scriptElement : scriptElement.Persistent := persistent_element _ _

theorem persistent_styleElement : styleElement.Persistent := persistent_element _ _

end Stencil.Markup
