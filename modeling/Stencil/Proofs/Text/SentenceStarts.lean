import Mathlib.Data.List.DropRight
import Stencil.Proofs.Modifier.Steadiness
import Stencil.Proofs.Text.Units

namespace Stencil

open Unicode

/-! Where sentences start.

A letter starts a sentence if it is the first letter of the text, or if a mark that ends a sentence
stands between it and the letter before it and white space directly behind that mark.  To a reader
who comes from the left two things are enough: whether the next letter would start a sentence, and
whether a mark has just been read.
-/

namespace Text

variable {before : List Char} {c : Char} {position : SentencePosition}

/-- The characters of a text behind its last letter. -/
def sinceLetter (text : List Char) : List Char :=
  text.rtakeWhile fun c => !isAlphabetic c

/-- A letter directly behind this text starts a sentence. -/
def StartsSentence (before : List Char) : Prop :=
  (∀ c ∈ before, isAlphabetic c = false) ∨
    ∃ mark space, isTerminator mark = true ∧ isWhiteSpace space = true ∧
      [mark, space] <:+: sinceLetter before

def EndsWithMark (before : List Char) : Prop :=
  ∃ mark ∈ before.getLast?, isTerminator mark = true

theorem isAlphabetic_of_isTerminator (mark : isTerminator c = true) : isAlphabetic c = false := by
  simp only [isTerminator, Bool.or_eq_true, decide_eq_true_eq] at mark
  rcases mark with (rfl | rfl) | rfl <;> decide +kernel

theorem isWhiteSpace_of_isTerminator (mark : isTerminator c = true) : isWhiteSpace c = false := by
  simp only [isTerminator, Bool.or_eq_true, decide_eq_true_eq] at mark
  rcases mark with (rfl | rfl) | rfl <;> decide

theorem sinceLetter_concat_letter (letter : isAlphabetic c = true) :
    sinceLetter (before ++ [c]) = [] := by
  rw [sinceLetter, List.rtakeWhile_concat, letter]
  rfl

theorem sinceLetter_concat_other (other : isAlphabetic c = false) :
    sinceLetter (before ++ [c]) = sinceLetter before ++ [c] := by
  rw [sinceLetter, List.rtakeWhile_concat, other]
  rfl

theorem endsWithMark_concat : EndsWithMark (before ++ [c]) ↔ isTerminator c = true := by
  simp [EndsWithMark]

theorem endsWithMark_of_suffix {mark : Char} (isMark : isTerminator mark = true)
    (last : [mark] <:+ sinceLetter before) : EndsWithMark before := by
  obtain ⟨front, whole⟩ := last.trans (List.rtakeWhile_suffix _ _)
  rw [← whole]
  exact endsWithMark_concat.mpr isMark

theorem startsSentence_nil : StartsSentence [] :=
  .inl fun _ member => absurd member List.not_mem_nil

theorem not_startsSentence_concat_letter (letter : isAlphabetic c = true) :
    ¬ StartsSentence (before ++ [c]) := by
  rintro (letterless | ⟨mark, space, _, _, inside⟩)
  · have other := letterless c (by simp)
    rw [letter] at other
    cases other
  · rw [sinceLetter_concat_letter letter] at inside
    simp at inside

/-- A character that is no letter makes a start only as white space directly behind a mark. -/
theorem startsSentence_concat_other (other : isAlphabetic c = false) :
    StartsSentence (before ++ [c]) ↔
      StartsSentence before ∨ isWhiteSpace c = true ∧ EndsWithMark before := by
  constructor
  · rintro (letterless | ⟨mark, space, isMark, isSpace, inside⟩)
    · exact .inl (.inl fun d member => letterless d (List.mem_append_left _ member))
    · rw [sinceLetter_concat_other other, List.infix_concat_iff] at inside
      rcases inside with atEnd | earlier
      · -- The pair is complete only now: the mark was last and the space is the character itself.
        obtain ⟨front, whole⟩ := atEnd
        obtain ⟨gap, same⟩ : front ++ [mark] = sinceLetter before ∧ [space] = [c] :=
          List.append_inj' (by simpa using whole) rfl
        cases same
        exact .inr ⟨isSpace, endsWithMark_of_suffix isMark ⟨front, gap⟩⟩
      · exact .inl (.inr ⟨mark, space, isMark, isSpace, earlier⟩)
  · rintro ((letterless | ⟨mark, space, isMark, isSpace, inside⟩) | ⟨isSpace, mark, last, isMark⟩)
    · refine .inl fun d member => ?_
      rcases List.mem_append.mp member with earlier | here
      · exact letterless d earlier
      · rwa [List.mem_singleton.mp here]
    · rw [StartsSentence, sinceLetter_concat_other other]
      exact .inr ⟨mark, space, isMark, isSpace, inside.trans (List.prefix_append _ _).isInfix⟩
    · obtain ⟨front, rfl⟩ := List.getLast?_eq_some_iff.mp last
      refine .inr ⟨mark, c, isMark, isSpace, ?_⟩
      rw [sinceLetter_concat_other other,
        sinceLetter_concat_other (isAlphabetic_of_isTerminator isMark)]
      exact ⟨sinceLetter front, [], by simp⟩

/-- The position after any character. -/
def SentencePosition.next (position : SentencePosition) (c : Char) : SentencePosition :=
  if isAlphabetic c then .within else position.after c

/-- What the position says of the text that has been read. -/
inductive SentencePosition.Tells : SentencePosition → List Char → Prop
  | atStart {before : List Char} (start : StartsSentence before) : Tells .atStart before
  | ended {before : List Char} (noStart : ¬ StartsSentence before) (mark : EndsWithMark before) :
      Tells .ended before
  | within {before : List Char} (noStart : ¬ StartsSentence before)
      (noMark : ¬ EndsWithMark before) : Tells .within before

namespace SentencePosition.Tells

theorem start_iff (tells : position.Tells before) :
    position = .atStart ↔ StartsSentence before := by
  cases tells <;> simp_all

theorem next_letter (letter : isAlphabetic c = true) : (position.next c).Tells (before ++ [c]) := by
  rw [SentencePosition.next, if_pos letter]
  refine .within (not_startsSentence_concat_letter letter) fun mark => ?_
  rw [isAlphabetic_of_isTerminator (endsWithMark_concat.mp mark)] at letter
  cases letter

theorem next_other (tells : position.Tells before) (other : isAlphabetic c = false) :
    (position.next c).Tells (before ++ [c]) := by
  have starts : StartsSentence (before ++ [c]) ↔
      StartsSentence before ∨ isWhiteSpace c = true ∧ EndsWithMark before :=
    startsSentence_concat_other other
  rw [SentencePosition.next, other, if_neg Bool.false_ne_true]
  cases tells with
  | atStart start => exact .atStart (starts.mpr (.inl start))
  | ended noStart mark =>
      rw [SentencePosition.after]
      split
      · next terminates =>
          refine .ended ?_ (endsWithMark_concat.mpr terminates)
          simp [starts, noStart, isWhiteSpace_of_isTerminator terminates]
      · next noTerminator =>
          split
          · next space => exact .atStart (starts.mpr (.inr ⟨space, mark⟩))
          · next noSpace =>
              exact .within (by simp [starts, noStart, noSpace])
                (fun ends => noTerminator (endsWithMark_concat.mp ends))
  | within noStart noMark =>
      have noStartYet : ¬ StartsSentence (before ++ [c]) := by simp [starts, noStart, noMark]
      rw [SentencePosition.after]
      split
      · next terminates => exact .ended noStartYet (endsWithMark_concat.mpr terminates)
      · next noTerminator =>
          exact .within noStartYet fun ends => noTerminator (endsWithMark_concat.mp ends)

theorem next (tells : position.Tells before) (c : Char) :
    (position.next c).Tells (before ++ [c]) := by
  cases letter : isAlphabetic c with
  | true => exact next_letter letter
  | false => exact tells.next_other letter

end SentencePosition.Tells

theorem tells_foldl (before : List Char) :
    (before.foldl SentencePosition.next .atStart).Tells before := by
  induction before using List.reverseRecOn with
  | nil => exact .atStart startsSentence_nil
  | append_singleton before c beforeIH =>
      rw [List.foldl_concat]
      exact beforeIH.next c

instance (before : List Char) : Decidable (StartsSentence before) :=
  decidable_of_iff _ (tells_foldl before).start_iff

-- A bracket behind the mark leaves no start, wherever the white space is.
example : StartsSentence "(See p. ".toList ∧ ¬ StartsSentence "(See it.) ".toList := by
  decide +kernel

/-- What becomes of a character behind a text: only a letter is changed, to a capital where it
starts a sentence and to a small letter elsewhere. -/
def capitalizedBehind (before : List Char) (c : Char) : List Char :=
  if isAlphabetic c then
    if StartsSentence before then upper c else lower c
  else [c]

theorem capitalizeFrom_cons (position : SentencePosition) (c : Char) (rest : List Char) :
    capitalizeFrom position (c :: rest) =
      (if isAlphabetic c then if position = .atStart then upper c else lower c else [c]) ++
        capitalizeFrom (position.next c) rest := by
  cases letter : isAlphabetic c <;> simp [capitalizeFrom, SentencePosition.next, letter]

theorem capitalizeFrom_eq (tells : position.Tells before) (rest : List Char) :
    capitalizeFrom position rest =
      (rest.zipIdx before.length).flatMap fun placed =>
        capitalizedBehind ((before ++ rest).take placed.2) placed.1 := by
  induction rest generalizing before position with
  | nil => rfl
  | cons c rest restIH =>
      have later := restIH (tells.next c)
      rw [List.length_append, List.length_singleton, List.append_assoc,
        List.singleton_append] at later
      rw [capitalizeFrom_cons, later, List.zipIdx_cons, List.flatMap_cons, List.take_left',
        capitalizedBehind]
      · simp only [tells.start_iff]
      · rfl

theorem capitalizeSentences_eq (text : List Char) :
    capitalizeSentences text =
      text.zipIdx.flatMap fun placed => capitalizedBehind (text.take placed.2) placed.1 :=
  capitalizeFrom_eq (.atStart startsSentence_nil) text

end Text

namespace Registry

/-- Capitalizing keeps every character that is no letter and puts every letter in its place in
capitals or in small letters: in capitals where it is the first letter or where, behind the letter
before it, a full stop, a question mark or an exclamation mark stands directly in front of white
space. -/
theorem capitalize_sentence_starts [Regex.Limits] (params : List String) (s : String) :
    let result := String.ofList (s.toList.zipIdx.flatMap fun placed =>
      Text.capitalizedBehind (s.toList.take placed.2) placed.1)
    builtin.resolve ⟨"capitalize", params⟩ (.string s) = some (.string result) ∧
      builtin.resolve ⟨"sentence", params⟩ (.string s) = some (.string result) := by
  intro result
  have known {name : String} (listed : name ∈ ["capitalize", "sentence"]) :
      builtin.find? name = some (.text Text.capitalizeSentences) := by
    rw [find?_builtin]
    simp only [List.mem_cons, List.not_mem_nil, or_false] at listed
    rcases listed with rfl | rfl <;> rfl
  have same : result = String.ofList (Text.capitalizeSentences s.toList) := by
    rw [Text.capitalizeSentences_eq]
  rw [same]
  exact ⟨resolve_of_text (known (by simp)) s, resolve_of_text (known (by simp)) s⟩

end Registry

end Stencil
