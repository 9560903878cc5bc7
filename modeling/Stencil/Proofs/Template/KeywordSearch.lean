import Stencil.Proofs.Regex.Searching
import Stencil.Proofs.Template.KeywordGrammar
import Stencil.Proofs.Template.KeywordReading

namespace Stencil.Regex

open Unicode

/-! Searching for keywords with their pattern.

The expression of the pattern matches exactly the keywords of the grammar, and it notes where their
names and chains stand.  So the matches of the pattern, found one after the other, are the keywords
that scanning finds.
-/

@[simp] theorem mem_single (c other : Char) :
    (CharClass.single c).mem other = decide (other = c) := by
  rw [CharClass.single, CharClass.mem, Bool.eq_iff_iff, Bool.and_eq_true, decide_eq_true_eq,
    decide_eq_true_eq, decide_eq_true_eq]
  constructor
  · intro between
    obtain ⟨le, ge⟩ := between
    exact Char.le_antisymm ge le
  · intro same
    subst same
    exact ⟨Char.le_refl _, Char.le_refl _⟩

theorem mem_spaceClass (c : Char) : spaceClass.mem c = isWhiteSpace c := rfl

namespace Cursor

@[simp] theorem skip_nil (cursor : Cursor) : cursor.skip [] cursor.rest = cursor := by
  simp [skip]

@[simp] theorem skip_rest (cursor : Cursor) (taken rest : List Char) :
    (cursor.skip taken rest).rest = rest := rfl

theorem move_eq_skip (cursor : Cursor) (c : Char) (rest : List Char) :
    cursor.move c rest = cursor.skip [c] rest := rfl

theorem skip_skip (cursor : Cursor) (first second middle rest : List Char) :
    (cursor.skip first middle).skip second rest = cursor.skip (first ++ second) rest := by
  simp [skip, List.getLast?_append, Option.or_assoc, Nat.add_assoc]

end Cursor

section Units

variable {taken plain : CharClass}

/-- The texts that the expression of repeated units matches. -/
def UnitsText (taken plain : CharClass) : List Char → Prop :=
  Units (fun c => plain.mem c = true) (fun c => taken.mem c = true)

theorem repeats_units {count : Nat} {start stop : Cursor}
    (notBackslash : ∀ c, plain.mem c = true → c ≠ '\\')
    (repeats : Repeats (Expr.alt (.seq (.set (.single '\\')) (.set taken)) (.set plain)).Takes count
      start stop) :
    ∃ text rest, UnitsText taken plain text ∧ start.rest = text ++ rest ∧
      stop = start.skip text rest ∧ (1 ≤ count → text ≠ []) := by
  induction repeats with
  | zero => exact ⟨[], _, .nil, rfl, by simp, by simp⟩
  | succ unit _ restIH =>
      obtain ⟨text, rest, units, shape, rfl, _⟩ := restIH
      rcases unit with ⟨_, ⟨c, afterBackslash, backslashShape, isBackslash, rfl⟩,
        ⟨next, afterUnit, takenShape, isTaken, rfl⟩⟩ | ⟨c, afterUnit, plainShape, isPlain, rfl⟩
      · obtain rfl : c = '\\' := by simpa using isBackslash
        simp only [Cursor.move_eq_skip, Cursor.skip_skip, Cursor.skip_rest] at shape takenShape ⊢
        subst shape takenShape
        exact ⟨'\\' :: next :: text, rest, .escaped isTaken units, backslashShape, rfl, by simp⟩
      · simp only [Cursor.move_eq_skip, Cursor.skip_skip, Cursor.skip_rest] at shape ⊢
        subst shape
        exact ⟨c :: text, rest, .plain (notBackslash c isPlain) isPlain units, plainShape, rfl,
          by simp⟩

theorem repeats_of_units {text : List Char} (units : UnitsText taken plain text) {start : Cursor}
    {rest : List Char} (shape : start.rest = text ++ rest) :
    ∃ count, Repeats (Expr.alt (.seq (.set (.single '\\')) (.set taken)) (.set plain)).Takes count
      start (start.skip text rest) ∧ (text ≠ [] → 1 ≤ count) := by
  induction units generalizing start with
  | nil =>
      have same : start.skip [] rest = start := by
        rw [← Cursor.skip_nil start, shape]
        rfl
      exact ⟨0, by rw [same]; exact .zero, by simp⟩
  | @escaped c text isTaken _ restIH =>
      obtain ⟨count, repeats, _⟩ := @restIH (start.skip ['\\', c] (text ++ rest)) rfl
      rw [Cursor.skip_skip] at repeats
      refine ⟨count + 1, .succ (.inl ⟨_, ⟨'\\', _, shape, by simp, rfl⟩, ?_⟩) repeats,
        by simp⟩
      refine ⟨c, _, rfl, isTaken, ?_⟩
      rw [Cursor.move_eq_skip, Cursor.move_eq_skip, Cursor.skip_skip]
      rfl
  | @plain c text _ isPlain _ restIH =>
      obtain ⟨count, repeats, _⟩ := @restIH (start.skip [c] (text ++ rest)) rfl
      rw [Cursor.skip_skip] at repeats
      exact ⟨count + 1, .succ (.inr ⟨c, _, shape, isPlain, rfl⟩) repeats, by simp⟩

theorem takes_unitsExpr_iff (notBackslash : ∀ c, plain.mem c = true → c ≠ '\\') {least : Nat}
    (atMostOne : least ≤ 1) {start stop : Cursor} :
    (unitsExpr taken plain least).Takes start stop ↔
      ∃ text rest, UnitsText taken plain text ∧ (least = 1 → text ≠ []) ∧
        start.rest = text ++ rest ∧ stop = start.skip text rest := by
  constructor
  · intro taken
    obtain ⟨count, enough, _, repeats⟩ := taken
    obtain ⟨text, rest, units, shape, rfl, nonempty⟩ := repeats_units notBackslash repeats
    exact ⟨text, rest, units, fun isOne => nonempty (by omega), shape, rfl⟩
  · intro stands
    obtain ⟨text, rest, units, nonempty, shape, rfl⟩ := stands
    obtain ⟨count, repeats, positive⟩ := repeats_of_units units shape
    refine ⟨count, ?_, by simp, repeats⟩
    by_cases isOne : least = 1
    · exact isOne ▸ positive (nonempty isOne)
    · omega

/-- A group of repeated units notes where they begin and end. -/
theorem takes_unitsGroup_iff (notBackslash : ∀ c, plain.mem c = true → c ≠ '\\') {least : Nat}
    (atMostOne : least ≤ 1) {index : Nat} {start stop : Cursor} :
    (Expr.group index (unitsExpr taken plain least)).Takes start stop ↔
      ∃ text rest, UnitsText taken plain text ∧ (least = 1 → text ≠ []) ∧
        start.rest = text ++ rest ∧
        stop = { start.skip text rest with
          slots := (start.slots.setIfInBounds (2 * index) (some start.place)).setIfInBounds
            (2 * index + 1) (some (start.place + text.length)) } := by
  constructor
  · intro taken
    obtain ⟨last, takes, rfl⟩ := taken
    obtain ⟨text, rest, units, nonempty, shape, rfl⟩ :=
      (takes_unitsExpr_iff notBackslash atMostOne).mp takes
    exact ⟨text, rest, units, nonempty, shape, rfl⟩
  · intro stands
    obtain ⟨text, rest, units, nonempty, shape, rfl⟩ := stands
    exact ⟨_, (takes_unitsExpr_iff notBackslash atMostOne).mpr
      ⟨text, rest, units, nonempty, shape, rfl⟩, rfl⟩

end Units

theorem takes_optional_iff {inner : Expr} {start stop : Cursor} :
    (Expr.repeated 0 (some 1) true inner).Takes start stop ↔
      stop = start ∨ inner.Takes start stop := by
  constructor
  · intro taken
    obtain ⟨count, _, bounded, repeats⟩ := taken
    have atMostOne : count ≤ 1 := bounded 1 rfl
    cases repeats with
    | zero => exact .inl rfl
    | succ first rest =>
        cases Nat.le_zero.mp (Nat.le_of_succ_le_succ atMostOne)
        cases rest
        exact .inr first
  · intro ways
    obtain rfl | takes := ways
    · exact ⟨0, Nat.le_refl _, by simp, .zero⟩
    · exact ⟨1, Nat.zero_le _, by simp, .succ takes .zero⟩

end Stencil.Regex

namespace Stencil

open Regex Unicode

def Delimiters.chainSlots (slots : Slots) (place : Nat) : Option (List Char) → Slots
  | none => slots
  | some chain =>
      (slots.setIfInBounds 4 (some (place + 1))).setIfInBounds 5 (some (place + 1 + chain.length))

/-- The slots behind a keyword that starts at a place. -/
def KeywordBody.slots (body : KeywordBody) (slots : Slots) (place : Nat) : Slots :=
  Delimiters.chainSlots
    ((slots.setIfInBounds 2 (some (place + 1))).setIfInBounds 3
      (some (place + 1 + body.name.length)))
    (place + 1 + body.name.length) body.chain

namespace Delimiters

variable {d : Delimiters}

theorem mem_nameClass {c : Char} :
    (nameClass d.closing d.modifier).mem c = true ↔
      c ≠ '\\' ∧ isWhiteSpace c = false ∧ c ≠ d.closing ∧ c ≠ d.modifier := by
  simp [nameClass, mem_spaceClass, and_assoc]
  exact and_left_comm

theorem mem_chainClass {c : Char} :
    (chainClass d.closing).mem c = true ↔ c ≠ '\\' ∧ c ≠ d.closing := by
  simp [chainClass]

theorem unitsText_name {text : List Char} :
    UnitsText (.negate spaceClass) (nameClass d.closing d.modifier) text ↔ d.NameText text := by
  constructor
  · refine Units.mono (fun c _ isPlain => (mem_nameClass.mp isPlain).2) fun c isTaken => ?_
    simpa [mem_spaceClass] using isTaken
  · refine Units.mono (fun c notBackslash isPlain => mem_nameClass.mpr ⟨notBackslash, isPlain⟩)
      fun c isTaken => ?_
    simpa [mem_spaceClass] using isTaken

theorem unitsText_chain {text : List Char} :
    UnitsText .all (chainClass d.closing) text ↔ d.ChainText text := by
  constructor
  · exact Units.mono (fun c _ isPlain => (mem_chainClass.mp isPlain).2) fun _ _ => trivial
  · exact Units.mono (fun c notBackslash isPlain => mem_chainClass.mpr ⟨notBackslash, isPlain⟩)
      fun c _ => CharClass.mem_all c

theorem takes_name_iff {start stop : Cursor} :
    (Expr.group 1 (unitsExpr (.negate spaceClass) (nameClass d.closing d.modifier) 1)).Takes
        start stop ↔
      ∃ name rest, d.NameText name ∧ name ≠ [] ∧ start.rest = name ++ rest ∧
        stop = { start.skip name rest with
          slots := (start.slots.setIfInBounds 2 (some start.place)).setIfInBounds 3
            (some (start.place + name.length)) } := by
  rw [takes_unitsGroup_iff (fun c isPlain => (mem_nameClass.mp isPlain).1) (Nat.le_refl 1)]
  simp [unitsText_name]

theorem takes_chain_iff {start stop : Cursor} :
    (Expr.repeated 0 (some 1) true (.seq (.set (.single d.modifier))
        (.group 2 (unitsExpr .all (chainClass d.closing) 0)))).Takes start stop ↔
      ∃ chain rest, (∀ text ∈ chain, d.ChainText text) ∧ start.rest = d.chainSource chain ++ rest ∧
        stop = { start.skip (d.chainSource chain) rest with
          slots := chainSlots start.slots start.place chain } := by
  have group := @takes_unitsGroup_iff .all (chainClass d.closing)
    (fun c isPlain => (mem_chainClass.mp isPlain).1) 0 (Nat.zero_le 1) 2
  rw [takes_optional_iff]
  constructor
  · intro ways
    obtain rfl | ⟨middle, ⟨c, rest, modifierShape, isModifier, rfl⟩, takes⟩ := ways
    · exact ⟨none, _, by simp, rfl, by simp [chainSource, chainSlots]⟩
    · obtain rfl : c = d.modifier := by simpa using isModifier
      obtain ⟨text, after, units, _, shape, rfl⟩ := group.mp takes
      cases shape
      refine ⟨some text, after, by simpa using unitsText_chain.mp units, modifierShape, ?_⟩
      rw [Cursor.move_eq_skip, Cursor.skip_skip]
      rfl
  · intro stands
    obtain ⟨chain, rest, units, shape, rfl⟩ := stands
    cases chain with
    | none =>
        left
        rw [chainSource, List.nil_append] at shape
        subst shape
        exact Cursor.skip_nil start
    | some chain =>
        refine .inr ⟨start.skip [d.modifier] (chain ++ rest), ⟨_, _, shape, by simp, rfl⟩,
          group.mpr ⟨chain, rest, unitsText_chain.mpr (units chain rfl), by simp, rfl, ?_⟩⟩
        rw [Cursor.skip_skip]
        rfl

theorem behind_source (body : KeywordBody) (start : Cursor) (after : List Char) (slots : Slots) :
    { start.skip (body.source d) after with slots } =
      (⟨slots, start.place + 1 + body.name.length + (d.chainSource body.chain).length + 1,
        some d.closing, after⟩ : Cursor) := by
  have last : (body.source d).getLast? = some d.closing := by
    rw [KeywordBody.source, List.getLast?_concat]
  simp only [Cursor.skip, last, Option.some_or, Cursor.mk.injEq, true_and, and_true]
  simp [KeywordBody.source]
  omega

theorem takes_keywordExpr_iff {start stop : Cursor} :
    d.keywordExpr.Takes start stop ↔
      ∃ body after, KeywordBody.WellFormed d body ∧ start.rest = body.source d ++ after ∧
        stop = { start.skip (body.source d) after with
          slots := body.slots start.slots start.place } := by
  constructor
  · intro taken
    obtain ⟨opened, ⟨c, afterOpening, openingShape, isOpening, rfl⟩, named, takesName, chained,
      takesChain, ⟨last, after, closingShape, isClosing, rfl⟩⟩ := taken
    obtain rfl : c = d.opening := by simpa using isOpening
    obtain rfl : last = d.closing := by simpa using isClosing
    obtain ⟨name, afterName, nameUnits, nonempty, nameShape, rfl⟩ := takes_name_iff.mp takesName
    obtain ⟨chain, afterChain, chainUnits, chainShape, rfl⟩ := takes_chain_iff.mp takesChain
    -- Each part stands where the part in front of it ends.
    cases nameShape
    cases chainShape
    cases closingShape
    refine ⟨⟨name, chain⟩, after, ⟨nameUnits, nonempty, chainUnits⟩, ?_, ?_⟩
    · rw [openingShape]
      simp [KeywordBody.source]
    · rw [behind_source]
      rfl
  · intro stands
    obtain ⟨body, after, wellFormed, shape, rfl⟩ := stands
    have whole : start.rest =
        d.opening :: (body.name ++ (d.chainSource body.chain ++ d.closing :: after)) := by
      rw [shape]
      simp [KeywordBody.source]
    rw [behind_source]
    refine ⟨_, ⟨_, _, whole, by simp, rfl⟩, _, takes_name_iff.mpr
      ⟨body.name, _, wellFormed.name_units, wellFormed.name_nonempty, rfl, rfl⟩, _,
      takes_chain_iff.mpr ⟨body.chain, _, wellFormed.chain_units, rfl, rfl⟩,
      ⟨d.closing, after, rfl, by simp, rfl⟩⟩

def keywordRegex (d : Delimiters) : Regex :=
  ⟨Program.ofExpr d.keywordExpr, 2, []⟩

/-- The match of a keyword that starts at a place. -/
def keywordMatch (d : Delimiters) (place : Nat) (body : KeywordBody) : Match where
  start := place
  stop := place + (body.source d).length
  groups := [some (body.source d), some body.name, body.chain]

theorem take_drop_middle (left right : List Char) {text middle : List Char}
    (shape : text = left ++ middle ++ right) {place start : Nat}
    (starts : start = place + left.length) :
    (text.drop (start - place)).take middle.length = middle := by
  subst shape starts
  simp

theorem matchOf?_keyword (d : Delimiters) (place : Nat) (gap : List Char) (body : KeywordBody)
    (after : List Char) :
    d.keywordRegex.matchOf? place (gap ++ (body.source d ++ after))
        ((body.slots (d.keywordRegex.emptySlots.setIfInBounds 0 (some (place + gap.length)))
          (place + gap.length)).setIfInBounds 1
            (some (place + gap.length + (body.source d).length))) =
      some (d.keywordMatch (place + gap.length) body) := by
  obtain ⟨name, chain⟩ := body
  have nameCut : ((gap ++ (KeywordBody.source d ⟨name, chain⟩ ++ after)).drop
      (place + gap.length + 1 - place)).take name.length = name := by
    refine take_drop_middle (gap ++ [d.opening]) (d.chainSource chain ++ d.closing :: after) ?_ ?_
    · simp [KeywordBody.source]
    · simp [Nat.add_assoc]
  cases chain with
  | none =>
      simp [matchOf?, keywordRegex, emptySlots, KeywordBody.slots, chainSlots, keywordMatch,
        List.range_succ, nameCut]
  | some chain =>
      have chainCut : ((gap ++ (KeywordBody.source d ⟨name, some chain⟩ ++ after)).drop
          (place + gap.length + 1 + name.length + 1 - place)).take chain.length = chain := by
        refine take_drop_middle (gap ++ d.opening :: name ++ [d.modifier])
          (d.closing :: after) ?_ ?_
        · simp [KeywordBody.source, chainSource]
        · simp
          omega
      simp [matchOf?, keywordRegex, emptySlots, KeywordBody.slots, chainSlots, keywordMatch,
        List.range_succ, nameCut, chainCut]

theorem numbersGroups_keywordExpr (d : Delimiters) : d.keywordExpr.NumbersGroups := by
  simp [keywordExpr, Expr.seqs, unitsExpr, Expr.NumbersGroups]

theorem matchesAt_keywordExpr_iff {emptySlots slots : Slots} {place : Nat} {before : Option Char}
    {rest : List Char} :
    d.keywordExpr.MatchesAt emptySlots place before rest slots ↔
      ∃ body after, KeywordBody.WellFormed d body ∧ rest = body.source d ++ after ∧
        slots = (body.slots (emptySlots.setIfInBounds 0 (some place)) place).setIfInBounds 1
          (some (place + (body.source d).length)) := by
  constructor
  · intro isMatch
    obtain ⟨stop, takes, rfl⟩ := isMatch
    obtain ⟨body, after, wellFormed, shape, rfl⟩ := takes_keywordExpr_iff.mp takes
    exact ⟨body, after, wellFormed, shape, rfl⟩
  · intro stands
    obtain ⟨body, after, wellFormed, shape, rfl⟩ := stands
    exact ⟨_, takes_keywordExpr_iff.mpr ⟨body, after, wellFormed, shape, rfl⟩, rfl⟩

theorem matchesAt_of_begins {rest : List Char} (begins : d.Begins rest) (emptySlots : Slots)
    (place : Nat) (before : Option Char) :
    ∃ slots, d.keywordExpr.MatchesAt emptySlots place before rest slots := by
  obtain ⟨body, after, wellFormed, shape⟩ := begins
  exact ⟨_, matchesAt_keywordExpr_iff.mpr ⟨body, after, wellFormed, shape, rfl⟩⟩

/-- A search with the pattern either finds no keyword where none begins, or the first one. -/
theorem findFrom?_keyword (d : Delimiters) (place : Nat) (before : Option Char)
    (text : List Char) :
    (d.keywordRegex.findFrom? place before text = none ∧
      ∀ skipped rest, text = skipped ++ rest → ¬ d.Begins rest) ∨
    ∃ gap body after, KeywordBody.WellFormed d body ∧ text = gap ++ (body.source d ++ after) ∧
      (∀ skipped rest, gap = skipped ++ rest → rest ≠ [] →
        ¬ d.Begins (rest ++ (body.source d ++ after))) ∧
      d.keywordRegex.findFrom? place before text =
        some (d.keywordMatch (place + gap.length) body) := by
  have numbers := numbersGroups_keywordExpr d
  have room : 0 < d.keywordRegex.emptySlots.size := by simp [emptySlots]
  cases searched : searchFrom d.keywordRegex.program d.keywordRegex.emptySlots place before [] none
      text with
  | none =>
      refine .inl ⟨by simp [findFrom?, searched], fun skipped rest split begins => ?_⟩
      obtain ⟨slots, isMatch⟩ := matchesAt_of_begins begins d.keywordRegex.emptySlots
        (place + skipped.length) (skipped.getLast?.or before)
      exact searchFrom_none numbers room searched skipped rest split slots isMatch
  | some slots =>
      obtain ⟨gap, rest, split, isMatch, noEarlier⟩ := searchFrom_some numbers room searched
      obtain ⟨body, after, wellFormed, rfl, rfl⟩ := matchesAt_keywordExpr_iff.mp isMatch
      refine .inr ⟨gap, body, after, wellFormed, split, ?_, ?_⟩
      · -- A keyword inside the gap would be an earlier match.
        intro skipped left inGap nonempty begins
        subst inGap
        obtain ⟨others, isOther⟩ := matchesAt_of_begins begins d.keywordRegex.emptySlots
          (place + skipped.length) (skipped.getLast?.or before)
        refine noEarlier skipped _ (by rw [split, List.append_assoc]) ?_ others isOther
        rw [List.length_append]
        have positive := List.length_pos_iff.mpr nonempty
        omega
      · simp only [findFrom?, searched, Option.bind_eq_bind, Option.bind_some]
        rw [split]
        exact matchOf?_keyword d place gap body after

end Delimiters

/-- The matches of a text from a place on, one after the other.  The length of the text is enough
fuel. -/
def Regex.findAllFrom (regex : Regex) : Nat → Nat → Bool → Option Char → List Char → List Match
  | 0, _, _, _, _ => []
  | fuel + 1, place, afterMatch, before, rest =>
      match regex.findNext? place afterMatch before rest with
      | none => []
      | some found =>
          let taken := rest.take (found.stop - place)
          found :: regex.findAllFrom fuel found.stop true (taken.getLast?.or before)
            (rest.drop (found.stop - place))

def Regex.findAll (regex : Regex) (text : List Char) : List Match :=
  regex.findAllFrom (text.length + 2) 0 false none text

/-- The occurrence that a match of the pattern stands for. -/
def Occurrence.ofMatch? (d : Delimiters) (text : List Char) (found : Match) :
    Option Occurrence := do
  let whole ← found.groups[0]?.join
  let name ← found.groups[1]?.join
  return {
    source := String.ofList whole
    keyword := d.foldName (String.ofList (d.unescape name))
    chain := String.ofList ((found.groups[2]?.join).getD [])
    start := Text.width (text.take found.start)
    stop := Text.width (text.take found.stop) }

namespace Delimiters

variable {d : Delimiters}

theorem findNext?_keyword (d : Delimiters) (place : Nat) (afterMatch : Bool)
    (before : Option Char) (text : List Char) :
    d.keywordRegex.findNext? place afterMatch before text =
      d.keywordRegex.findFrom? place before text := by
  rcases findFrom?_keyword d place before text with ⟨failed, _⟩ | ⟨gap, body, after, _, _, _, found⟩
  · simp [findNext?, failed]
  · have notEmpty : (d.keywordMatch (place + gap.length) body).stop ≠ place := by
      simp [keywordMatch, KeywordBody.source]
      omega
    simp [findNext?, found, notEmpty]

theorem ofMatch?_keyword (d : Delimiters) (passed gap : List Char) (body : KeywordBody)
    (after : List Char) :
    Occurrence.ofMatch? d (passed ++ (gap ++ (body.source d ++ after)))
        (d.keywordMatch (passed.length + gap.length) body) =
      some
        { source := String.ofList (body.source d)
          keyword := d.foldName (String.ofList (d.unescape body.name))
          chain := String.ofList (body.chain.getD [])
          start := Text.width passed + Text.width gap
          stop := Text.width passed + Text.width gap + Text.width (body.source d) } := by
  have start : (passed ++ (gap ++ (body.source d ++ after))).take (passed.length + gap.length) =
      passed ++ gap := by
    rw [← List.append_assoc, ← List.length_append, List.take_left]
  have stop : (passed ++ (gap ++ (body.source d ++ after))).take
      (passed.length + gap.length + (body.source d).length) = passed ++ gap ++ body.source d := by
    rw [← List.append_assoc, ← List.append_assoc, ← List.length_append, ← List.length_append,
      List.take_left]
  simp only [Occurrence.ofMatch?, keywordMatch, start, stop, Text.width_append]
  rfl

/-- The matches of the pattern list the keywords. -/
theorem listing_findAllFrom (d : Delimiters) (fuel : Nat) (passed text : List Char)
    (afterMatch : Bool) (before : Option Char) (enough : text.length < fuel) :
    Listing d (Text.width passed) text
      ((d.keywordRegex.findAllFrom fuel passed.length afterMatch before text).filterMap
        (Occurrence.ofMatch? d (passed ++ text))) := by
  induction fuel generalizing passed text afterMatch before with
  | zero => contradiction
  | succ fuel fuelIH =>
      rcases findFrom?_keyword d passed.length before text with
        ⟨failed, missing⟩ | ⟨gap, body, after, wellFormed, rfl, missing, found⟩
      · rw [Regex.findAllFrom, findNext?_keyword, failed]
        exact .none missing
      · have stop : (d.keywordMatch (passed.length + gap.length) body).stop =
            (passed ++ gap ++ body.source d).length := by
          simp [keywordMatch, Nat.add_assoc]
        have left : (gap ++ (body.source d ++ after)).drop
            ((passed ++ gap ++ body.source d).length - passed.length) = after := by
          rw [← List.append_assoc]
          refine List.drop_left' ?_
          simp only [List.length_append]
          omega
        have shorter : after.length < fuel := by
          simp only [KeywordBody.source, List.length_append, List.length_cons] at enough
          omega
        rw [Regex.findAllFrom, findNext?_keyword, found]
        simp only [List.filterMap_cons, ofMatch?_keyword, stop, left]
        refine .next wellFormed missing ?_
        rw [← Text.width_append, ← Text.width_append, ← List.append_assoc, ← List.append_assoc]
        exact fuelIH _ after _ _ shorter

theorem scan_eq_of_listing {template : String} {occurrences : List Occurrence}
    (listing : Listing d 0 template.toList occurrences) : d.scan template = occurrences := by
  rw [listing.eq_pieces, scan]

/-- The pattern of a keyword is a regular expression, and scanning lists its matches; a text begins
with one keyword of the grammar at most, and scanning lists just the keywords that begin first, each
behind the one before. -/
theorem scan_matches_keywordPattern (d : Delimiters) :
    (∃ regex, Regex.parse? {} d.keywordPattern = some regex ∧
      ∀ template : String, d.scan template =
        (regex.findAll template.toList).filterMap (Occurrence.ofMatch? d template.toList)) ∧
    (∀ text, Subsingleton { body : KeywordBody // body.WellFormed d ∧ body.source d <+: text }) ∧
    ∀ template occurrences,
      d.scan template = occurrences ↔ Listing d 0 template.toList occurrences := by
  refine ⟨⟨d.keywordRegex, parse?_keywordPattern d, fun template => ?_⟩, fun text => ⟨?_⟩, ?_⟩
  · have enough : template.toList.length < template.toList.length + 2 := by omega
    exact scan_eq_of_listing (listing_findAllFrom d _ [] template.toList false none enough)
  · intro leftBegins rightBegins
    obtain ⟨left, leftWellFormed, leftAfter, leftShape⟩ := leftBegins
    obtain ⟨right, rightWellFormed, rightAfter, rightShape⟩ := rightBegins
    have same := source_append_inj leftWellFormed rightWellFormed
      (leftShape.trans rightShape.symm)
    exact Subtype.ext same.1
  · intro template occurrences
    constructor
    · intro same
      subst same
      exact listing_pieces d 0 template.toList
    · exact scan_eq_of_listing

end Delimiters

end Stencil
