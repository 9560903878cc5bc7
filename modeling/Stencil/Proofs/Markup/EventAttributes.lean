import Stencil.Proofs.Markup.Constructs
import Stencil.Proofs.Text.Units

namespace Stencil.Markup

open Pattern Unicode
open scoped List

/-! What the removal of event attributes leaves.

Whether an attribute begins at a character depends on the character in front of it, and that one can
change when attributes go.  It never gives a place to begin to a character that had none: an
attribute ends with a quote, or white space or the end of the tag follows (`Bounding`).
-/

/-! ## Where an attribute ends -/

theorem isWord_of_isWhiteSpace {c : Char} (space : isWhiteSpace c = true) : isWord c = false := by
  have other := Text.not_isWordUnit_of_isWhiteSpace space
  rw [Text.isWordUnit, Bool.or_eq_false_iff] at other
  exact other.2

theorem endsName_of_isWhiteSpace {c : Char} (space : isWhiteSpace c = true) :
    endsName (some c) = true := by
  rw [endsName, Option.any_some, isWord_of_isWhiteSpace space]
  rfl

/-- No name goes on from the character `before` into the text. -/
def Bounded (before : Option Char) (text : List Char) : Prop :=
  endsName before ∨ text.head?.all fun c => isWhiteSpace c || isTagEnd c

namespace Pattern

variable {first second : Pattern} {test : Char → Bool} {text : List Char}

/-- No name goes on from a match into what follows it. -/
structure Bounding (pattern : Pattern) : Prop where
  ends : ∀ {text after : List Char}, pattern.after? text = some after →
    ∃ front last, text = front ++ last :: after ∧ Bounded (some last) after

theorem Persistent.seq_bounding (persistent : first.Persistent) (bounding : second.Bounding) :
    (seq first second).Bounding := by
  refine ⟨fun {text after} found => ?_⟩
  obtain ⟨middle, firstFound, secondFound⟩ := Option.bind_eq_some_iff.mp found
  obtain ⟨front, rfl, _⟩ := persistent.takes firstFound
  obtain ⟨back, last, rfl, bounded⟩ := bounding.ends secondFound
  exact ⟨front ++ back, last, by rw [List.append_assoc], bounded⟩

theorem Bounding.skipping (bounding : first.Bounding) : (skipping test first).Bounding := by
  refine ⟨fun {text after} found => ?_⟩
  obtain ⟨front, last, split, bounded⟩ := bounding.ends found
  refine ⟨text.takeWhile test ++ front, last, ?_, bounded⟩
  rw [List.append_assoc, ← split, List.takeWhile_append_dropWhile]

theorem Bounding.orElse (left : first.Bounding) (right : second.Bounding) :
    (orElse first second).Bounding := by
  refine ⟨fun {text after} found => ?_⟩
  rcases Option.or_eq_some_iff.mp found with firstFound | ⟨_, secondFound⟩
  · exact left.ends firstFound
  · exact right.ends secondFound

end Pattern

theorem persistent_quotedText (quote : Char) : (quotedText quote).Persistent :=
  ((exact_char _).seq (exact_through_char _)).persistent

theorem bounding_quotedText {quote : Char} (other : isWord quote = false) :
    (quotedText quote).Bounding := by
  refine (exact_char _).persistent.seq_bounding ⟨fun {text after} found => ?_⟩
  obtain ⟨front, last, split, isQuote, _⟩ := after?_through_char_eq_some_iff.mp found
  obtain rfl : last = quote := of_decide_eq_true isQuote
  refine ⟨front, last, split, .inl ?_⟩
  rw [endsName, Option.any_some, other]
  rfl

theorem bounding_run {test : Char → Bool}
    (stopsAt : ∀ c, test c = false → (isWhiteSpace c || isTagEnd c) = true) :
    (run test).Bounding := by
  refine ⟨fun {text after} found => ?_⟩
  cases text with
  | nil => cases found
  | cons c rest =>
      rw [after?_run_cons, Option.ite_none_right_eq_some, Option.some.injEq] at found
      obtain ⟨_, rfl⟩ := found
      obtain ⟨front, last, whole⟩ : ∃ front last, c :: rest.takeWhile test = front ++ [last] :=
        (List.eq_nil_or_concat' _).resolve_left (List.cons_ne_nil _ _)
      refine ⟨front, last, ?_, .inr ?_⟩
      · rw [List.append_cons, ← whole, List.cons_append, List.takeWhile_append_dropWhile]
      · rw [Option.all_eq_true]
        exact fun d first => stopsAt d (Text.stops_dropWhile test rest d first)

theorem persistent_attributeValue : attributeValue.Persistent :=
  ((persistent_quotedText '"').orElse (persistent_quotedText '\'')).orElse (persistent_run _)

theorem bounding_attributeValue : attributeValue.Bounding := by
  have doubleQuote : isWord '"' = false := by decide +kernel
  have singleQuote : isWord '\'' = false := by decide +kernel
  refine ((bounding_quotedText doubleQuote).orElse (bounding_quotedText singleQuote)).orElse
    (bounding_run fun c stops => ?_)
  simpa [isTagEnd, Classical.or_iff_not_imp_left] using stops

theorem persistent_eventAttribute : eventAttribute.Persistent :=
  ((exact_exactly _).seq_persistent
    ((exact_char _).seq_persistent persistent_attributeValue.skipping).skipping.run_seq).skipping

theorem bounding_eventAttribute : eventAttribute.Bounding :=
  ((exact_exactly _).persistent.seq_bounding ((persistent_run _).seq_bounding
    ((exact_char _).persistent.seq_bounding bounding_attributeValue.skipping).skipping)).skipping

/-! ## The inside of a tag -/

theorem eventAfter?_eq_some {before : Option Char} {text after : List Char}
    (found : eventAfter? before text = some after) :
    (endsName before || text.head?.any isWhiteSpace) ∧ eventAttribute.after? text = some after :=
  (Option.ite_none_right_eq_some.mp found).imp_left id

@[simp] theorem removeEvents_nil (before : Option Char) : removeEvents before [] = [] := by
  rw [removeEvents]

theorem removeEvents_cons_of_some {before : Option Char} {c : Char} {rest after : List Char}
    (found : eventAfter? before (c :: rest) = some after) :
    removeEvents before (c :: rest) = removeEvents (lastTaken (c :: rest) after) after := by
  rw [removeEvents]
  split
  · next other =>
      cases found.symm.trans other
      rfl
  · next missing => cases found.symm.trans missing

theorem removeEvents_cons_of_none {before : Option Char} {c : Char} {rest : List Char}
    (missing : eventAfter? before (c :: rest) = none) :
    removeEvents before (c :: rest) = c :: removeEvents (some c) rest := by
  rw [removeEvents]
  split
  · next found => cases missing.symm.trans found
  · rfl

theorem removeEvents_eq_self {before : Option Char} {text : List Char}
    (nowhere : ∀ front back, text = front ++ back →
      eventAfter? (front.getLast?.or before) back = none) :
    removeEvents before text = text := by
  induction text generalizing before with
  | nil => exact removeEvents_nil before
  | cons c rest restIH =>
      have missing : eventAfter? before (c :: rest) = none := nowhere [] _ rfl
      rw [removeEvents_cons_of_none missing, restIH fun front back split => ?_]
      have later := nowhere (c :: front) back (congrArg (c :: ·) split)
      rwa [List.getLast?_cons, Option.some_or, ← Option.or_some] at later

/-- The removal of event attributes on characters that carry their places along. -/
def removeEventsPlaced (before : Option Char) : List (Char × Nat) → List (Char × Nat)
  | [] => []
  | x :: rest =>
      match _found : eventAfter? before ((x :: rest).map Prod.fst) with
      | some after =>
          removeEventsPlaced (lastTaken ((x :: rest).map Prod.fst) after) (behind (x :: rest) after)
      | none => x :: removeEventsPlaced (some x.1) rest
termination_by placed => placed.length
decreasing_by
  · have shorter : after.length < ((x :: rest).map Prod.fst).length :=
      eventAfter?_shorter (by assumption)
    rw [List.length_map] at shorter
    exact Nat.lt_of_le_of_lt (length_behind_le _ _) shorter
  · simp

theorem fst_removeEventsPlaced (before : Option Char) (placed : List (Char × Nat)) :
    (removeEventsPlaced before placed).map Prod.fst =
      removeEvents before (placed.map Prod.fst) := by
  fun_induction removeEventsPlaced before placed with
  | case1 => rw [List.map_nil, removeEvents_nil]
  | case2 before x rest after found restIH =>
      obtain ⟨_, split, _⟩ := persistent_eventAttribute.takes (eventAfter?_eq_some found).2
      rw [restIH, (fst_taken_behind split).2, List.map_cons, removeEvents_cons_of_some found]
  | case3 before x rest missing restIH =>
      rw [List.map_cons, List.map_cons, removeEvents_cons_of_none missing, restIH]

theorem removeEventsPlaced_sublist (before : Option Char) (placed : List (Char × Nat)) :
    removeEventsPlaced before placed <+ placed := by
  fun_induction removeEventsPlaced before placed with
  | case1 => exact List.Sublist.slnil
  | case2 before x rest after found restIH => exact restIH.trans (List.drop_sublist _ _)
  | case3 before x rest missing restIH => exact restIH.cons_cons x

theorem lastTaken_append (front after : List Char) (last : Char) :
    lastTaken (front ++ last :: after) after = some last := by
  have length : (front ++ last :: after).length - after.length = (front ++ [last]).length := by
    simp only [List.length_append, List.length_cons, List.length_nil]
    omega
  rw [lastTaken, length, List.append_cons front last after, List.take_left, List.getLast?_concat]

theorem bounded_lastTaken {before : Option Char} {text after : List Char}
    (found : eventAfter? before text = some after) : Bounded (lastTaken text after) after := by
  obtain ⟨front, last, rfl, bounded⟩ := bounding_eventAttribute.ends (eventAfter?_eq_some found).2
  rw [lastTaken_append]
  exact bounded

theorem eventAttribute_missing {before : Option Char} {c : Char} {rest : List Char}
    (missing : eventAfter? before (c :: rest) = none)
    (free : Bounded before (c :: rest) ∨ isWhiteSpace c = true) :
    eventAttribute.after? (c :: rest) = none := by
  by_cases begins : (endsName before || isWhiteSpace c) = true
  · exact (if_pos begins).symm.trans missing
  · obtain ⟨goesOn, noSpace⟩ := Bool.or_eq_false_iff.mp (Bool.not_eq_true _ ▸ begins)
    rcases free with (ends | closes) | space
    · cases goesOn.symm.trans ends
    · obtain rfl : c = '>' := by simpa [noSpace, isTagEnd] using closes
      rfl
    · cases noSpace.symm.trans space

/-- No event attribute is at a character that is kept where the text that is left ends a name. -/
theorem missing_of_removeEventsPlaced {before : Option Char} {placed front back : List (Char × Nat)}
    {x : Char × Nat} (output : removeEventsPlaced before placed = front ++ x :: back)
    (starts : front = [] → Bounded before (placed.map Prod.fst) ∨ isWhiteSpace x.1 = true)
    (free : endsName (front.map Prod.fst).getLast? = true ∨ isWhiteSpace x.1 = true) :
    ∃ skipped following, placed = skipped ++ x :: following ∧
      eventAttribute.after? ((x :: following).map Prod.fst) = none := by
  fun_induction removeEventsPlaced before placed generalizing front with
  | case1 => cases List.append_ne_nil_of_right_ne_nil front (List.cons_ne_nil x back) output.symm
  | case2 before y rest after found restIH =>
      obtain ⟨_, letters, _⟩ := persistent_eventAttribute.takes (eventAfter?_eq_some found).2
      have afterLetters := (fst_taken_behind letters).2
      obtain ⟨skipped, following, split, missing⟩ := restIH output
        (fun _ => .inl (by rw [afterLetters]; exact bounded_lastTaken found)) free
      refine ⟨taken (y :: rest) after ++ skipped, following, ?_, missing⟩
      rw [List.append_assoc, ← split, taken_append_behind]
  | case3 before y rest missing restIH =>
      cases front with
      | nil =>
          obtain ⟨rfl, _⟩ := List.cons.inj output
          exact ⟨[], rest, rfl, eventAttribute_missing missing (starts rfl)⟩
      | cons z front =>
          obtain ⟨rfl, later⟩ := List.cons.inj output
          obtain ⟨skipped, following, split, unmatched⟩ := restIH later
            (fun first => free.imp_left fun ends => .inl (by rwa [first] at ends))
            (free.imp_left fun ends => by
              cases front with
              | nil => rfl
              | cons => exact ends)
          exact ⟨y :: skipped, following, by rw [split, List.cons_append], unmatched⟩

end Stencil.Markup
