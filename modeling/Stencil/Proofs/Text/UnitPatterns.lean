import Stencil.Proofs.Regex.RunSearch
import Stencil.Proofs.Template.KeywordSearch
import Stencil.Proofs.Text.Units

namespace Stencil.Text

open Regex

/-! Words and sentences as the matches of patterns.

A search with one of the patterns finds the next unit (`Finds`), so the matches of a text, one after
the other, end where its units end.
-/

def wordPattern : List Char :=
  "[-\\w]+".toList

def sentencePattern : List Char :=
  "[^\\r\\n!?.]+(?:[.?!]+|[\\r\\n]+|$)".toList

def wordUnitClass : CharClass :=
  .union (.union .none (.single '-')) wordClass

def markClass : CharClass :=
  .union (.union (.union .none (.single '.')) (.single '?')) (.single '!')

def breakClass : CharClass :=
  .union (.union .none (.single '\r')) (.single '\n')

def sentenceClass : CharClass :=
  .negate (.union (.union (.union (.union (.union .none (.single '\r')) (.single '\n'))
    (.single '!')) (.single '?')) (.single '.'))

def wordRegex : Regex :=
  ⟨Program.ofExpr (runOf wordUnitClass), 0, []⟩

def sentenceRegex : Regex :=
  ⟨Program.ofExpr (closedRun sentenceClass markClass breakClass), 0, []⟩

theorem parse?_wordPattern : Regex.parse? {} wordPattern = some wordRegex := by
  have read : readExpr? {} wordPattern = some (runOf wordUnitClass, { flags := {} }) := rfl
  rw [Regex.parse?, read]
  rfl

section Reading

/-- What stands in the group at the end of the pattern, with the parenthesis that closes it. -/
def closingPattern : List Char :=
  "[.?!]+|[\\r\\n]+|$)".toList

def unflagged : ReaderState := { flags := {} }

theorem readBranches_closing (fuel : Nat) :
    readBranches (fuel + 6) unflagged closingPattern =
      some (.alt (runOf markClass) (.alt (runOf breakClass) (.look .textEnd)), unflagged,
        [')']) := by
  have markSet (fuel : Nat) (rest : List Char) : readClass {} (fuel + 6)
      ('.' :: '?' :: '!' :: ']' :: rest) = some (markClass, rest) := rfl
  have breakSet (fuel : Nat) (rest : List Char) : readClass {} (fuel + 6)
      ('\\' :: 'r' :: '\\' :: 'n' :: ']' :: rest) = some (breakClass, rest) := rfl
  have marks : readParts (fuel + 5) unflagged [] closingPattern =
      some (runOf markClass, unflagged, '|' :: "[\\r\\n]+|$)".toList) := by
    have front : closingPattern =
        '[' :: '.' :: '?' :: '!' :: ']' :: "+|[\\r\\n]+|$)".toList := rfl
    rw [front, readParts_set rfl _ _ (markSet _ _)]
    rfl
  have breaks : readParts (fuel + 4) unflagged [] "[\\r\\n]+|$)".toList =
      some (runOf breakClass, unflagged, '|' :: "$)".toList) := by
    have front : "[\\r\\n]+|$)".toList =
        '[' :: '\\' :: 'r' :: '\\' :: 'n' :: ']' :: "+|$)".toList := rfl
    rw [front, readParts_set rfl _ _ (breakSet _ _)]
    rfl
  have last : readBranches (fuel + 4) unflagged "$)".toList =
      some (.look .textEnd, unflagged, [')']) := rfl
  rw [readBranches_alt _ marks, readBranches_alt _ breaks, last]
  rfl

theorem readExpr?_sentencePattern :
    readExpr? {} sentencePattern =
      some (closedRun sentenceClass markClass breakClass, unflagged) := by
  have sentenceSet (fuel : Nat) (rest : List Char) : readClass {} (fuel + 9)
      ('^' :: '\\' :: 'r' :: '\\' :: 'n' :: '!' :: '?' :: '.' :: ']' :: rest) =
        some (sentenceClass, rest) := rfl
  have grouped (fuel : Nat) : readParts (fuel + 3) unflagged [some (.set sentenceClass)]
      ('+' :: '(' :: '?' :: ':' :: closingPattern) =
        readGroup (fuel + 1) unflagged {} [some (runOf sentenceClass)] id closingPattern := rfl
  have parts : readParts 127 unflagged [] sentencePattern =
      some (closedRun sentenceClass markClass breakClass, unflagged, []) := by
    have front : sentencePattern = '[' :: '^' :: '\\' :: 'r' :: '\\' :: 'n' :: '!' :: '?' :: '.' ::
        ']' :: '+' :: '(' :: '?' :: ':' :: closingPattern := rfl
    rw [front, readParts_set rfl _ _ (sentenceSet _ _), grouped, readGroup, readBranches_closing]
    rfl
  have whole : readBranches 128 unflagged sentencePattern =
      some (closedRun sentenceClass markClass breakClass, unflagged, []) := by
    rw [readBranches, parts]
    rfl
  have length : 4 * sentencePattern.length + 4 = 128 := rfl
  have state : ({ flags := {} } : ReaderState) = unflagged := rfl
  rw [readExpr?, length, state, whole]
  rfl

theorem parse?_sentencePattern : Regex.parse? {} sentencePattern = some sentenceRegex := by
  rw [Regex.parse?, readExpr?_sentencePattern]
  rfl

end Reading

theorem mem_wordUnitClass : wordUnitClass.mem = isWordUnit := by
  funext c
  simp [wordUnitClass, isWordUnit, wordClass, CharClass.mem, Unicode.isWord,
    Unicode.isAlphabetic]

theorem mem_markClass : markClass.mem = endsSentence := by
  funext c
  simp [markClass, endsSentence]

theorem mem_breakClass : breakClass.mem = endsLine := by
  funext c
  simp [breakClass, endsLine]

theorem mem_sentenceClass : sentenceClass.mem = isSentenceChar := by
  funext c
  simp [sentenceClass, isSentenceChar, endsSentence, endsLine, Bool.and_assoc, Bool.and_comm,
    Bool.and_left_comm]

section Search

variable {regex : Regex} {next : TakeUnit} {text : List Char} {units : List (List Char)}

/-- From any place a search finds the next unit: a match that ends where the unit does. -/
def Finds (regex : Regex) (next : TakeUnit) : Prop :=
  ∀ place before text,
    (next text = none ∧ regex.findFrom? place before text = none) ∨
      ∃ taken rest found, next text = some (taken, rest) ∧
        regex.findFrom? place before text = some found ∧ found.stop = place + taken.length

theorem findFrom?_of_searchFrom (noGroups : regex.groupCount = 0) {place start stop : Nat}
    {before : Option Char}
    (searched : searchFrom regex.program regex.emptySlots place before [] none text =
      some ((regex.emptySlots.setIfInBounds 0 (some start)).setIfInBounds 1 (some stop))) :
    ∃ found, regex.findFrom? place before text = some found ∧ found.stop = stop := by
  rw [findFrom?, searched]
  simp [matchOf?, emptySlots, noGroups]

theorem finds_takeClosed {inside : Char → Bool} {closing : Option Char → Char → Bool}
    (noGroups : regex.groupCount = 0)
    (searched : ∀ place before text,
      searchFrom regex.program regex.emptySlots place before [] none text =
        let start := place + (text.takeWhile (!inside ·)).length
        let rest := text.dropWhile (!inside ·)
        let tail := rest.dropWhile inside
        if rest = [] then none
        else some ((regex.emptySlots.setIfInBounds 0 (some start)).setIfInBounds 1
          (some (start + (rest.takeWhile inside).length +
            (tail.takeWhile (closing tail.head?)).length)))) :
    Finds regex (takeClosed inside closing) := by
  intro place before text
  have result := searched place before text
  by_cases nothing : text.dropWhile (!inside ·) = []
  · simp only [nothing, if_true] at result
    exact .inl ⟨if_pos nothing, by rw [findFrom?, result]; rfl⟩
  · simp only [nothing, if_false] at result
    obtain ⟨found, isMatch, stop⟩ := findFrom?_of_searchFrom noGroups result
    refine .inr ⟨_, _, found, if_neg nothing, isMatch, ?_⟩
    rw [stop]
    simp only [List.length_append]
    omega

theorem finds_takeWord : Finds wordRegex takeWord := by
  rw [takeWord_eq]
  refine finds_takeClosed rfl fun place before text => ?_
  have noEnding (tail : List Char) : tail.takeWhile (fun _ => false) = [] := by
    cases tail <;> rfl
  have searched := searchFrom_runOf wordUnitClass wordRegex.emptySlots place before text
  rw [mem_wordUnitClass] at searched
  simp only [noEnding, List.length_nil, Nat.add_zero]
  exact searched

theorem finds_takeSentence : Finds sentenceRegex takeSentence := by
  rw [takeSentence_eq]
  refine finds_takeClosed rfl fun place before text => ?_
  have others (c : Char) :
      sentenceClass.mem c = !(markClass.mem c || breakClass.mem c) := by
    rw [mem_sentenceClass, mem_markClass, mem_breakClass, isSentenceChar, Bool.not_or]
  have apart (c : Char) (isMark : markClass.mem c = true) : breakClass.mem c = false := by
    rw [mem_markClass] at isMark
    rw [mem_breakClass]
    have either : (c = '.' ∨ c = '?') ∨ c = '!' := by simpa [endsSentence] using isMark
    rcases either with (rfl | rfl) | rfl <;> decide
  have searched := searchFrom_closedRun others apart sentenceRegex.emptySlots place before text
  rw [mem_sentenceClass, mem_markClass, mem_breakClass] at searched
  exact searched

/-- The places where units end that follow each other from a place on. -/
def stops (place : Nat) : List (List Char) → List Nat
  | [] => []
  | unit :: units => (place + unit.length) :: stops (place + unit.length) units

theorem length_stops (place : Nat) (units : List (List Char)) :
    (stops place units).length = units.length := by
  induction units generalizing place with
  | nil => rfl
  | cons unit units unitsIH => rw [stops, List.length_cons, unitsIH, List.length_cons]

theorem getElem?_stops {place index stop : Nat} (found : (stops place units)[index]? = some stop) :
    stop = place + (units.take (index + 1)).flatten.length := by
  induction units generalizing place index with
  | nil => contradiction
  | cons unit units unitsIH =>
      cases index with
      | zero =>
          cases found
          simp
      | succ index =>
          rw [unitsIH found, List.take_succ_cons, List.flatten_cons, List.length_append,
            Nat.add_assoc]

variable (finds : Finds regex next) (lawful : Lawful next)

include finds lawful

theorem findNext?_eq (place : Nat) (afterMatch : Bool) (before : Option Char)
    (text : List Char) :
    regex.findNext? place afterMatch before text = regex.findFrom? place before text := by
  rcases finds place before text with ⟨_, failed⟩ | ⟨taken, rest, found, isUnit, isMatch, stop⟩
  · simp [findNext?, failed]
  · have positive := List.length_pos_iff.mpr (lawful.nonempty isUnit)
    have notEmpty : found.stop ≠ place := by omega
    simp [findNext?, isMatch, notEmpty]

/-- The matches of the pattern end where the units do. -/
theorem Cuts.stops_findAllFrom (cuts : Cuts next text units) (fuel place : Nat)
    (afterMatch : Bool) (before : Option Char) (enough : text.length < fuel) :
    (regex.findAllFrom fuel place afterMatch before text).map (·.stop) = stops place units := by
  induction cuts generalizing fuel place afterMatch before with
  | @done text missing =>
      obtain ⟨fuel, rfl⟩ := Nat.exists_eq_add_one_of_ne_zero (Nat.ne_zero_of_lt enough)
      rcases finds place before text with ⟨_, failed⟩ | ⟨_, _, _, isUnit, _⟩
      · rw [Regex.findAllFrom, findNext?_eq finds lawful, failed]
        rfl
      · rw [missing] at isUnit
        contradiction
  | @unit text taken rest units isUnit restCuts restIH =>
      obtain ⟨fuel, rfl⟩ := Nat.exists_eq_add_one_of_ne_zero (Nat.ne_zero_of_lt enough)
      rcases finds place before text with ⟨missing, _⟩ | ⟨_, _, found, again, isMatch, stop⟩
      · rw [missing] at isUnit
        contradiction
      · rw [isUnit] at again
        cases again
        have whole := lawful.whole isUnit
        have positive := List.length_pos_iff.mpr (lawful.nonempty isUnit)
        have left : text.drop (found.stop - place) = rest := by
          rw [stop, Nat.add_sub_cancel_left, whole, List.drop_left]
        have shorter : rest.length < fuel := by
          rw [whole, List.length_append] at enough
          omega
        rw [Regex.findAllFrom, findNext?_eq finds lawful, isMatch]
        simp only [List.map_cons, left, restIH fuel found.stop true _ shorter]
        rw [stop, stops]

theorem Cuts.stops_findAll (cuts : Cuts next text units) :
    (regex.findAll text).map (·.stop) = stops 0 units :=
  cuts.stops_findAllFrom finds lawful _ 0 false none (by omega)

theorem Cuts.length_findAll (cuts : Cuts next text units) :
    (regex.findAll text).length = units.length := by
  rw [← length_stops 0 units, ← cuts.stops_findAll finds lawful, List.length_map]

end Search

/-- A text cut behind a match with a given number: up to the end of the match, without white space
at the end.  A text with fewer matches stays whole. -/
structure CutAfter (regex : Regex) (count : Nat) (whole cut : List Char) : Prop where
  few : (regex.findAll whole).length < count → cut = whole
  many : ∀ last, (regex.findAll whole)[count - 1]? = some last →
    cut = Unicode.trimEnd (whole.take last.stop)

theorem cutAfter_truncateAfter {regex : Regex} {next : TakeUnit} (finds : Finds regex next)
    (lawful : Lawful next) {count : Nat} (positive : 0 < count) (text : List Char) :
    CutAfter regex count text (truncateAfter next count text) := by
  obtain ⟨units, cuts⟩ := Cuts.exists_units lawful text
  have lengths := cuts.length_findAll finds lawful
  constructor
  · intro few
    rw [cuts.truncateAfter_eq, if_neg (by omega)]
  · intro last isLast
    obtain ⟨inside, _⟩ := List.getElem?_eq_some_iff.mp isLast
    have stop : (stops 0 units)[count - 1]? = some last.stop := by
      rw [← cuts.stops_findAll finds lawful, List.getElem?_map, isLast, Option.map_some]
    rw [getElem?_stops stop, Nat.sub_add_cancel positive, Nat.zero_add]
    have isFront := (List.take_prefix count units).flatten.trans (cuts.flatten_prefix lawful)
    rw [← List.prefix_iff_eq_take.mp isFront, cuts.truncateAfter_eq, if_pos (by omega)]

theorem length_findAll_words (count : Nat) (text : List Char) :
    (wordRegex.findAll (truncateAfter takeWord count text)).length =
      min count (wordRegex.findAll text).length := by
  obtain ⟨units, cuts⟩ := Cuts.exists_units lawful_takeWord text
  rw [(cuts.truncateAfter_words count).length_findAll finds_takeWord lawful_takeWord,
    cuts.length_findAll finds_takeWord lawful_takeWord, List.length_take]

theorem length_findAll_sentences_le (count : Nat) (text : List Char) :
    (sentenceRegex.findAll (truncateAfter takeSentence count text)).length ≤ count := by
  obtain ⟨units, cuts⟩ := Cuts.exists_units lawful_takeSentence (truncateAfter takeSentence count text)
  rw [cuts.length_findAll finds_takeSentence lawful_takeSentence]
  exact length_units_truncateAfter_le lawful_takeSentence count cuts

end Stencil.Text
