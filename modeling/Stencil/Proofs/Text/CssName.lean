import Stencil.Proofs.Text.Runs
import Stencil.Text.CssName

namespace Stencil.Text

/-! Names for style classes are clean, and a clean name stays as it is.

The passes do not undo each other: cutting the edges off and putting a letter in front settle how a
name begins, and what later passes put in are underscores behind that.
-/

structure IsCssName (name : List Char) : Prop where
  begins : ∃ c rest, name = c :: rest ∧ isCssWord c = true ∧ c.isDigit = false
  chars : ∀ c ∈ name, isCssChar c = true
  short_runs : ∀ run, run <:+: name → (∀ c ∈ run, isSeparator c = true) → run.length < 3

/-- The part of a text that a name is made of. -/
def cssCore (text : List Char) : List Char :=
  dropEndWhile (!isCssChar ·) (text.dropWhile (!isCssWord ·))

/-- The core, behind a letter if it begins with a digit. -/
def cssNamed (text : List Char) : List Char :=
  if (cssCore text).head?.any Char.isDigit then 'A' :: '_' :: cssCore text else cssCore text

def shortenRun (run : List Char) : List Char :=
  if 3 ≤ run.length then ['_'] else run

theorem shortenFrom_eq (text : List Char) :
    shortenFrom [] text = onRuns isSeparator shortenRun text := by
  have passed : shortenFrom [] text = onRuns isSeparator shortenRun ([] ++ text) := by
    refine eq_onRuns rfl ?_ ?_ ?_ (by simp) text
    · exact fun pending => rfl
    · intro pending c rest inside
      rw [shortenFrom, if_pos inside]
    · intro pending c rest outside
      rw [shortenFrom, if_neg (by simp [outside])]
      rfl
  rwa [List.nil_append] at passed

theorem cssName_eq (text : List Char) :
    cssName text = onRuns isSeparator shortenRun (replaceInvalidFrom false (cssNamed text)) := by
  rw [← shortenFrom_eq]
  rfl

theorem isCssChar_of_word {c : Char} (word : isCssWord c = true) : isCssChar c = true := by
  rw [isCssChar, word, Bool.true_or]

theorem isSeparator_of_word {c : Char} (word : isCssWord c = true) : isSeparator c = false := by
  cases separator : isSeparator c with
  | false => rfl
  | true =>
      have either : c = '_' ∨ c = '-' := by simpa [isSeparator] using separator
      rcases either with rfl | rfl
      · exact absurd word (by decide)
      · exact absurd word (by decide)

section Core

variable {test : Char → Bool} {text : List Char}

theorem dropEndWhile_cons {c : Char} (kept : test c = false) (rest : List Char) :
    dropEndWhile test (c :: rest) = c :: dropEndWhile test rest := by
  have single : [c].dropWhile test = [c] := List.dropWhile_cons_of_neg (by simp [kept])
  rw [dropEndWhile, List.reverse_cons, List.dropWhile_append, single, dropEndWhile]
  split
  · next none => rw [List.isEmpty_iff.mp none]; rfl
  · rw [List.reverse_append, List.reverse_singleton, List.singleton_append]

theorem dropEndWhile_eq_self (kept : ∀ c ∈ text, test c = false) :
    dropEndWhile test text = text := by
  induction text with
  | nil => rfl
  | cons c rest restIH =>
      obtain ⟨here, later⟩ := List.forall_mem_cons.mp kept
      rw [dropEndWhile_cons here, restIH later]

theorem cssCore_of_no_word (none : ∀ c ∈ text, isCssWord c = false) : cssCore text = [] := by
  have dropped : text.dropWhile (!isCssWord ·) = [] := by
    rw [List.dropWhile_eq_nil_iff]
    intro c member
    rw [none c member]
    rfl
  rw [cssCore, dropped]
  rfl

theorem cssCore_of_word {c : Char} (member : c ∈ text) (word : isCssWord c = true) :
    ∃ first rest, cssCore text = first :: rest ∧ isCssWord first = true := by
  cases shape : text.dropWhile (!isCssWord ·) with
  | nil =>
      have dropped := List.dropWhile_eq_nil_iff.mp shape c member
      rw [word] at dropped
      contradiction
  | cons first rest =>
      have stops := stops_dropWhile (!isCssWord ·) text
      rw [shape] at stops
      have isWord : isCssWord first = true := by simpa using stops_cons.mp stops
      have kept : (!isCssChar first) = false := by rw [isCssChar_of_word isWord]; rfl
      exact ⟨first, dropEndWhile (!isCssChar ·) rest, by rw [cssCore, shape, dropEndWhile_cons kept],
        isWord⟩

end Core

theorem cssNamed_of_no_word {text : List Char} (none : ∀ c ∈ text, isCssWord c = false) :
    cssNamed text = [] := by
  rw [cssNamed, cssCore_of_no_word none]
  rfl

theorem cssNamed_of_word {text : List Char} {c : Char} (member : c ∈ text)
    (word : isCssWord c = true) :
    ∃ first rest, cssNamed text = first :: rest ∧ isCssWord first = true ∧
      first.isDigit = false := by
  obtain ⟨first, rest, shape, isWord⟩ := cssCore_of_word member word
  rw [cssNamed, shape, List.head?_cons, Option.any_some]
  cases digit : first.isDigit with
  | true => exact ⟨'A', _, rfl, by decide, by decide⟩
  | false => exact ⟨first, rest, rfl, isWord, digit⟩

theorem isCssChar_of_mem_replaceInvalidFrom {inRun : Bool} {text : List Char} :
    ∀ c ∈ replaceInvalidFrom inRun text, isCssChar c = true := by
  fun_induction replaceInvalidFrom inRun text with
  | case1 => simp
  | case2 inRun c rest valid restIH => exact List.forall_mem_cons.mpr ⟨valid, restIH⟩
  | case3 c rest _ restIH => exact restIH
  | case4 inRun c rest _ _ restIH => exact List.forall_mem_cons.mpr ⟨by decide, restIH⟩

theorem replaceInvalidFrom_eq_self {inRun : Bool} {text : List Char}
    (valid : ∀ c ∈ text, isCssChar c = true) : replaceInvalidFrom inRun text = text := by
  induction text generalizing inRun with
  | nil => rfl
  | cons c rest restIH =>
      obtain ⟨here, later⟩ := List.forall_mem_cons.mp valid
      rw [replaceInvalidFrom, if_pos here, restIH later]

theorem length_shortenRun_lt (run : List Char) : (shortenRun run).length < 3 := by
  rw [shortenRun]
  split
  · decide
  · omega

theorem shortenRun_ne_nil {run : List Char} (nonempty : run ≠ []) : shortenRun run ≠ [] := by
  rw [shortenRun]
  split
  · exact List.cons_ne_nil _ _
  · exact nonempty

theorem isSeparator_of_mem_shortenRun {run : List Char} (all : ∀ c ∈ run, isSeparator c = true) :
    ∀ c ∈ shortenRun run, isSeparator c = true := by
  rw [shortenRun]
  split
  · exact List.forall_mem_singleton.mpr rfl
  · exact all

theorem isCssName_cssName {text : List Char} {c : Char} (member : c ∈ text)
    (word : isCssWord c = true) : IsCssName (cssName text) := by
  obtain ⟨first, rest, shape, isWord, notDigit⟩ := cssNamed_of_word member word
  constructor
  · -- The first character is no separator, so no pass touches it.
    rw [cssName_eq, shape, replaceInvalidFrom, if_pos (isCssChar_of_word isWord),
      onRuns_of_not (isSeparator_of_word isWord)]
    exact ⟨first, _, rfl, isWord, notDigit⟩
  · intro other listed
    rw [cssName_eq] at listed
    rcases mem_onRuns listed with kept | ⟨run, isRun, inRun⟩
    · exact isCssChar_of_mem_replaceInvalidFrom other kept
    · have separator := isSeparator_of_mem_shortenRun (test_of_mem_runs isRun) other inRun
      rw [isCssChar, separator, Bool.or_true]
  · intro part isPart all
    by_cases nonempty : part = []
    · rw [nonempty]
      decide
    · rw [cssName_eq] at isPart
      obtain ⟨run, isRun, within⟩ := exists_run_of_isInfix nonempty all isPart
      rw [runs_onRuns (fun _ => shortenRun_ne_nil) (fun _ => isSeparator_of_mem_shortenRun)] at isRun
      obtain ⟨whole, _, rfl⟩ := List.mem_map.mp isRun
      exact Nat.lt_of_le_of_lt within (length_shortenRun_lt whole)

theorem IsCssName.cssName_eq_self {name : List Char} (isName : IsCssName name) :
    cssName name = name := by
  obtain ⟨first, rest, shape, isWord, notDigit⟩ := isName.begins
  have core : cssCore name = name := by
    have front : name.dropWhile (!isCssWord ·) = name := by
      rw [shape, List.dropWhile_cons_of_neg (by simp [isWord])]
    have back : ∀ c ∈ name, (!isCssChar c) = false := fun c member => by
      rw [isName.chars c member]
      rfl
    rw [cssCore, front, dropEndWhile_eq_self back]
  have named : cssNamed name = name := by
    have noDigit : name.head?.any Char.isDigit = false := by
      rw [shape, List.head?_cons, Option.any_some, notDigit]
    rw [cssNamed, core, noDigit]
    rfl
  rw [cssName_eq, named, replaceInvalidFrom_eq_self isName.chars]
  refine onRuns_eq_self fun run isRun => ?_
  have short := isName.short_runs run (isInfix_of_mem_runs isRun) (test_of_mem_runs isRun)
  rw [shortenRun, if_neg (Nat.not_le.mpr short)]

theorem cssName_of_no_word {text : List Char} (none : ∀ c ∈ text, isCssWord c = false) :
    cssName text = [] := by
  rw [cssName_eq, cssNamed_of_no_word none, replaceInvalidFrom, onRuns_nil]

/-- A text with a word character becomes a clean name and any other text becomes empty; making a
name of the result changes nothing. -/
theorem cssName_clean_or_empty (text : List Char) :
    (cssName text = [] ↔ ∀ c ∈ text, isCssWord c = false) ∧
      (cssName text ≠ [] → IsCssName (cssName text)) ∧
      cssName (cssName text) = cssName text := by
  by_cases some : ∃ c ∈ text, isCssWord c = true
  · obtain ⟨c, member, word⟩ := some
    have isName := isCssName_cssName member word
    obtain ⟨first, rest, shape, _⟩ := isName.begins
    refine ⟨iff_of_false (by simp [shape]) ?_, fun _ => isName, isName.cssName_eq_self⟩
    intro none
    exact absurd (none c member) (by simp [word])
  · have none : ∀ c ∈ text, isCssWord c = false := by simpa using some
    rw [cssName_of_no_word none]
    refine ⟨iff_of_true rfl none, fun nonempty => absurd rfl nonempty, ?_⟩
    exact cssName_of_no_word (by simp)

end Stencil.Text
