import Stencil.Regex.Basic

namespace Stencil.Regex

open Unicode

/-! What the reader of regular expressions makes of their parts.

Quoting turns any character into an expression of that character alone, inside brackets and outside.
The other lemmas take the reader over one part each, under the flag that lets a dot stand for every
character.
-/

def dotAll : Flags := { dotMatchesLineFeed := true }

@[simp] theorem skip_dotAll (text : List Char) : dotAll.skip text = text := rfl

@[simp] theorem caseClass_dotAll (set : CharClass) : dotAll.caseClass set = set := rfl

@[simp] theorem classChar?_dotAll (literal : Literal) :
    dotAll.classChar? literal = some literal.char := rfl

@[simp] theorem escapeExpr?_dotAll_literal (c : Char) :
    dotAll.escapeExpr? (.literal { char := c }) = some (.set (.single c)) := rfl

theorem isMeta_iff {c : Char} :
    isMeta c = true ↔ c ∈ "\\.+*?()|[]\x7b\x7d^$#&-~".toList := by
  rw [isMeta, List.contains_iff_mem]

theorem ne_of_not_meta {c other : Char} (notMeta : ¬ isMeta c = true)
    (otherMeta : isMeta other = true) : c ≠ other := by
  intro same
  subst same
  exact notMeta otherMeta

/-- After a backslash a character with a meaning of its own stands for itself. -/
theorem readEscape_meta {c : Char} (isMetaChar : isMeta c = true) (flags : Flags)
    (rest : List Char) :
    readEscape flags (c :: rest) = some (.literal { char := c }, rest) := by
  have oneOf : c = '\\' ∨ c = '.' ∨ c = '+' ∨ c = '*' ∨ c = '?' ∨ c = '(' ∨ c = ')' ∨ c = '|' ∨
      c = '[' ∨ c = ']' ∨ c = '\x7b' ∨ c = '\x7d' ∨ c = '^' ∨ c = '$' ∨ c = '#' ∨ c = '&' ∨
      c = '-' ∨ c = '~' := by
    simpa using isMeta_iff.mp isMetaChar
  rcases oneOf with rfl | rfl | rfl | rfl | rfl | rfl | rfl | rfl | rfl | rfl | rfl | rfl | rfl |
    rfl | rfl | rfl | rfl | rfl <;> rfl

/-- A quoted character is read as the class of that character alone. -/
theorem readParts_quoteChar (fuel : Nat) {state : ReaderState} (flags : state.flags = dotAll)
    (parts : List (Option Expr)) (c : Char) (rest : List Char) :
    readParts (fuel + 1) state parts (quoteChar c ++ rest) =
      readParts fuel state (some (.set (.single c)) :: parts) rest := by
  by_cases isMetaChar : isMeta c = true
  · rw [quoteChar, if_pos isMetaChar]
    simp [readParts, flags, readEscape_meta isMetaChar]
  · rw [quoteChar, if_neg isMetaChar]
    simp only [List.cons_append, List.nil_append, readParts, flags, skip_dotAll]
    split <;> try exact absurd (by decide) isMetaChar
    simp

theorem readClassItem_quoteChar (c : Char) (rest : List Char) :
    readClassItem dotAll (quoteChar c ++ rest) = some (.literal { char := c }, rest) := by
  by_cases isMetaChar : isMeta c = true
  · rw [quoteChar, if_pos isMetaChar]
    simp [readClassItem, readEscape_meta isMetaChar]
  · have notBackslash : c ≠ '\\' := ne_of_not_meta isMetaChar (by decide)
    rw [quoteChar, if_neg isMetaChar, List.cons_append, List.nil_append, readClassItem]
    intro same
    subst same
    contradiction

theorem readClassOp?_quoteChar (c : Char) (rest : List Char) :
    readClassOp? (quoteChar c ++ rest) = none := by
  by_cases isMetaChar : isMeta c = true
  · rw [quoteChar, if_pos isMetaChar]
    rfl
  · rw [quoteChar, if_neg isMetaChar]
    unfold readClassOp?
    split <;> simp_all [isMeta]

/-- The same inside brackets, where a hyphen must not follow. -/
theorem readClassBody_quoteChar (fuel : Nat) (pending : PendingClass) (part : CharClass)
    {c next : Char} (follows : next ≠ '-') (rest : List Char) :
    readClassBody dotAll (fuel + 1) pending part (quoteChar c ++ next :: rest) =
      readClassBody dotAll fuel pending (.union part (.single c)) (next :: rest) := by
  have range : readClassRange dotAll (quoteChar c ++ next :: rest) =
      some (.single c, next :: rest) := by
    simp [readClassRange, readClassItem_quoteChar, follows]
  have op := readClassOp?_quoteChar c (next :: rest)
  have front : ∀ after, quoteChar c ++ next :: rest ≠ ']' :: after ∧
      quoteChar c ++ next :: rest ≠ '[' :: after := by
    intro after
    by_cases isMetaChar : isMeta c = true
    · simp [quoteChar, isMetaChar]
    · have notClosing : c ≠ ']' := ne_of_not_meta isMetaChar (by decide)
      have notOpening : c ≠ '[' := ne_of_not_meta isMetaChar (by decide)
      simp [quoteChar, isMetaChar, notClosing, notOpening]
  rw [readClassBody, skip_dotAll]
  dsimp only
  split
  · next isEmpty => simp at isEmpty
  · next after shape => exact absurd shape (front after).1
  · next after shape => exact absurd shape (front after).2
  · rw [op, range]
    rfl

@[simp] theorem negateClass?_dotAll (negated : Bool) (set : CharClass) :
    dotAll.negateClass? negated set = some (if negated then .negate set else set) := rfl

theorem head_quoteChar (c : Char) (rest : List Char) :
    ∃ next left, quoteChar c ++ rest = next :: left ∧
      ∀ other, isMeta other = true → other ≠ '\\' → next ≠ other := by
  by_cases isMetaChar : isMeta c = true
  · refine ⟨'\\', c :: rest, by simp [quoteChar, isMetaChar], ?_⟩
    intro other _ notBackslash
    exact Ne.symm notBackslash
  · refine ⟨c, rest, by simp [quoteChar, isMetaChar], ?_⟩
    intro other otherMeta _
    exact ne_of_not_meta isMetaChar otherMeta

theorem readClassBody_escape (fuel : Nat) (pending : PendingClass) (part : CharClass)
    {set : CharClass} {text rest : List Char}
    (read : readClassRange dotAll ('\\' :: text) = some (set, rest)) :
    readClassBody dotAll (fuel + 1) pending part ('\\' :: text) =
      readClassBody dotAll fuel pending (.union part set) rest := by
  simp [readClassBody, readClassOp?, read]

theorem readClassRange_backslash {next : Char} (follows : next ≠ '-') (rest : List Char) :
    readClassRange dotAll ('\\' :: '\\' :: next :: rest) = some (.single '\\', next :: rest) := by
  have backslashIsMeta : isMeta '\\' = true := by decide
  simp [readClassRange, readClassItem, readEscape_meta backslashIsMeta, follows]

def behindGroups (count : Nat) : ReaderState :=
  { flags := dotAll, groupCount := count }

@[simp] theorem flags_behindGroups (count : Nat) : (behindGroups count).flags = dotAll := rfl

theorem readParts_escape (fuel count : Nat) (parts : List (Option Expr)) {text rest : List Char}
    {escape : Escape} {part : Expr} (read : readEscape dotAll text = some (escape, rest))
    (meaning : dotAll.escapeExpr? escape = some part) :
    readParts (fuel + 1) (behindGroups count) parts ('\\' :: text) =
      readParts fuel (behindGroups count) (some part :: parts) rest := by
  simp [readParts, read, meaning]

theorem readParts_set {state : ReaderState} (plain : state.flags.verbose = false) (fuel : Nat)
    (parts : List (Option Expr)) {text rest : List Char} {set : CharClass}
    (read : readClass state.flags (2 * text.length + 2) text = some (set, rest)) :
    readParts (fuel + 1) state parts ('[' :: text) =
      readParts fuel state (some (.set set) :: parts) rest := by
  simp [readParts, Flags.skip, plain, read]

theorem readParts_class (fuel count : Nat) (parts : List (Option Expr)) {text rest : List Char}
    {set : CharClass} (read : readClass dotAll (2 * text.length + 2) text = some (set, rest)) :
    readParts (fuel + 1) (behindGroups count) parts ('[' :: text) =
      readParts fuel (behindGroups count) (some (.set set) :: parts) rest :=
  readParts_set rfl fuel parts read

theorem readParts_plainGroup (fuel count : Nat) (parts : List (Option Expr)) (text : List Char) :
    readParts (fuel + 1) (behindGroups count) parts ('(' :: '?' :: ':' :: text) =
      readGroup fuel (behindGroups count) dotAll parts id text := by
  simp [readParts, readGroupHead, readFlags, behindGroups]

theorem readParts_group (fuel count : Nat) (parts : List (Option Expr)) {c : Char}
    (isPart : c ≠ '?') (text : List Char) :
    readParts (fuel + 1) (behindGroups count) parts ('(' :: c :: text) =
      readGroup fuel (behindGroups (count + 1)) dotAll parts (.group (count + 1)) (c :: text) := by
  simp [readParts, readGroupHead, isPart, behindGroups]

theorem readGroup_closed (fuel : Nat) {count inside : Nat} (parts : List (Option Expr))
    (wrap : Expr → Expr) {text rest : List Char} {inner : Expr}
    (read : readBranches fuel (behindGroups count) text =
      some (inner, behindGroups inside, ')' :: rest)) :
    readGroup (fuel + 1) (behindGroups count) dotAll parts wrap text =
      readParts fuel (behindGroups inside) (some (wrap inner) :: parts) rest := by
  rw [readGroup, read]
  rfl

theorem readBranches_one (fuel : Nat) {state inside : ReaderState} {text rest : List Char}
    {branch : Expr} (read : readParts fuel state [] text = some (branch, inside, ')' :: rest)) :
    readBranches (fuel + 1) state text = some (branch, inside, ')' :: rest) := by
  simp [readBranches, read]

theorem readBranches_alt (fuel : Nat) {state inside : ReaderState} {text rest : List Char}
    {branch : Expr} (read : readParts fuel state [] text = some (branch, inside, '|' :: rest)) :
    readBranches (fuel + 1) state text =
      (readBranches fuel inside rest).map
        fun (others, state, rest) => (.alt branch others, state, rest) := by
  simp [readBranches, read]
  cases readBranches fuel inside rest <;> rfl

theorem readParts_close (fuel count : Nat) (parts : List (Option Expr)) (rest : List Char) :
    readParts (fuel + 1) (behindGroups count) parts (')' :: rest) =
      some (joinParts parts, behindGroups count, ')' :: rest) := by
  simp [readParts]

theorem readParts_bar (fuel count : Nat) (parts : List (Option Expr)) (rest : List Char) :
    readParts (fuel + 1) (behindGroups count) parts ('|' :: rest) =
      some (joinParts parts, behindGroups count, '|' :: rest) := by
  simp [readParts]

/-- The marks of repetitions with their bounds. -/
def repetitionMarks : List (Char × Nat × Option Nat) :=
  [('*', 0, none), ('+', 1, none), ('?', 0, some 1)]

theorem readParts_repeat (fuel count : Nat) (part : Expr) (parts : List (Option Expr))
    {mark next : Char} {least : Nat} {most : Option Nat}
    (meaning : (mark, least, most) ∈ repetitionMarks)
    (greedy : next ≠ '?') (rest : List Char) :
    readParts (fuel + 1) (behindGroups count) (some part :: parts) (mark :: next :: rest) =
      readParts fuel (behindGroups count) (some (.repeated least most true part) :: parts)
        (next :: rest) := by
  have notLazy : readLazy (next :: rest) = (false, next :: rest) := by
    rw [readLazy]
    intro others shape
    exact greedy (List.cons_eq_cons.mp shape).1
  have notSwapped : dotAll.swapGreed = false := rfl
  simp only [repetitionMarks, List.mem_cons, Prod.mk.injEq, List.not_mem_nil, or_false] at meaning
  rcases meaning with ⟨rfl, rfl, rfl⟩ | ⟨rfl, rfl, rfl⟩ | ⟨rfl, rfl, rfl⟩ <;>
    simp [readParts, notLazy, repeatLast, notSwapped]

theorem readParts_end (fuel count : Nat) (parts : List (Option Expr)) :
    readParts (fuel + 1) (behindGroups count) parts [] =
      some (joinParts parts, behindGroups count, []) := by
  simp [readParts]

theorem readParts_dot (fuel count : Nat) (parts : List (Option Expr)) (rest : List Char) :
    readParts (fuel + 1) (behindGroups count) parts ('.' :: rest) =
      readParts fuel (behindGroups count) (some (.set .all) :: parts) rest := by
  have every : dotAll.dot? = some (.set .all) := rfl
  simp [readParts, every]

def unitsText (takenText plainText : List Char) (mark : Char) (rest : List Char) : List Char :=
  '(' :: '(' :: '?' :: ':' :: '\\' :: '\\' ::
    (takenText ++ '|' :: '[' :: (plainText ++ ')' :: mark :: ')' :: rest))

/-- The expression of repeated units: a backslash with a character it takes, or a plain one. -/
def unitsExpr (taken plain : CharClass) (least : Nat) : Expr :=
  .repeated least none true (.alt (.seq (.set (.single '\\')) (.set taken)) (.set plain))

theorem readParts_units (fuel count : Nat) (parts : List (Option Expr))
    {takenText plainText rest : List Char} {taken plain : CharClass} {mark : Char} {least : Nat}
    (readTaken : ∀ fuel parts rest,
      readParts (fuel + 1) (behindGroups (count + 1)) parts (takenText ++ rest) =
        readParts fuel (behindGroups (count + 1)) (some (.set taken) :: parts) rest)
    (readPlain : ∀ rest, readClass dotAll (2 * (plainText ++ rest).length + 2) (plainText ++ rest) =
      some (plain, rest))
    (meaning : (mark, least, none) ∈ repetitionMarks) :
    readParts (fuel + 9) (behindGroups count) parts (unitsText takenText plainText mark rest) =
      readParts (fuel + 7) (behindGroups (count + 1))
        (some (.group (count + 1) (unitsExpr taken plain least)) :: parts) rest := by
  -- From the inside out: the two branches, what is repeated, and the group around it.
  have first : readParts (fuel + 3) (behindGroups (count + 1)) [] ('\\' :: '\\' ::
      (takenText ++ '|' :: '[' :: (plainText ++ ')' :: mark :: ')' :: rest))) =
      some (.seq (.set (.single '\\')) (.set taken), behindGroups (count + 1),
        '|' :: '[' :: (plainText ++ ')' :: mark :: ')' :: rest)) := by
    rw [readParts_escape _ _ _ (readEscape_meta (by decide) _ _) (escapeExpr?_dotAll_literal _),
      readTaken, readParts_bar]
    rfl
  have second : readParts (fuel + 2) (behindGroups (count + 1)) []
      ('[' :: (plainText ++ ')' :: mark :: ')' :: rest)) =
      some (.set plain, behindGroups (count + 1), ')' :: mark :: ')' :: rest) := by
    rw [readParts_class _ _ _ (readPlain _), readParts_close]
    rfl
  have branches : readBranches (fuel + 4) (behindGroups (count + 1)) ('\\' :: '\\' ::
      (takenText ++ '|' :: '[' :: (plainText ++ ')' :: mark :: ')' :: rest))) =
      some (.alt (.seq (.set (.single '\\')) (.set taken)) (.set plain), behindGroups (count + 1),
        ')' :: mark :: ')' :: rest) := by
    rw [readBranches_alt _ first, readBranches_one _ second]
    rfl
  have repetition : readParts (fuel + 6) (behindGroups (count + 1)) []
      ('(' :: '?' :: ':' :: '\\' :: '\\' ::
        (takenText ++ '|' :: '[' :: (plainText ++ ')' :: mark :: ')' :: rest))) =
      some (unitsExpr taken plain least, behindGroups (count + 1), ')' :: rest) := by
    rw [readParts_plainGroup, readGroup_closed _ _ _ branches,
      readParts_repeat _ _ _ _ meaning (by decide), readParts_close]
    rfl
  rw [unitsText, readParts_group _ _ _ (by decide),
    readGroup_closed _ _ _ (readBranches_one _ repetition)]

end Stencil.Regex
