import Stencil.Template.Scan
import Stencil.Proofs.Regex.Reading

namespace Stencil.Delimiters

open Regex Unicode

/-! The pattern of a keyword as a regular expression.

Whatever the delimiters are, the pattern reads as the same expression but for the characters
themselves.
-/

/-- What may stand in a name without a backslash. -/
def nameClass (closing modifier : Char) : CharClass :=
  .negate (.union (.union (.union (.union .none spaceClass) (.single '\\')) (.single closing))
    (.single modifier))

/-- What may stand in a chain without a backslash. -/
def chainClass (closing : Char) : CharClass :=
  .negate (.union (.union .none (.single '\\')) (.single closing))

theorem readClass_nameClass {fuel : Nat} (enough : 6 ≤ fuel) (closing modifier : Char)
    (rest : List Char) :
    readClass dotAll fuel ('^' :: '\\' :: 's' :: '\\' :: '\\' ::
        (quoteChar closing ++ (quoteChar modifier ++ ']' :: rest))) =
      some (nameClass closing modifier, rest) := by
  obtain ⟨fuel, rfl⟩ := Nat.exists_eq_add_of_le' enough
  obtain ⟨next, left, shape, notMeta⟩ :=
    head_quoteChar closing (quoteChar modifier ++ ']' :: rest)
  obtain ⟨second, tail, modifierShape, secondNotMeta⟩ :=
    head_quoteChar modifier (']' :: rest)
  have notHyphen : next ≠ '-' := notMeta '-' (by decide) (by decide)
  have secondNotHyphen : second ≠ '-' := secondNotMeta '-' (by decide) (by decide)
  have white : readClassRange dotAll ('\\' :: 's' :: '\\' :: '\\' :: next :: left) =
      some (spaceClass, '\\' :: '\\' :: next :: left) := rfl
  have body : readClassBody dotAll (fuel + 5) none .none
      ('\\' :: 's' :: '\\' :: '\\' :: next :: left) =
      some (.union (.union (.union (.union .none spaceClass) (.single '\\')) (.single closing))
        (.single modifier), rest) := by
    rw [readClassBody_escape _ _ _ white,
      readClassBody_escape _ _ _ (readClassRange_backslash notHyphen left), ← shape,
      modifierShape, readClassBody_quoteChar _ _ _ secondNotHyphen, ← modifierShape,
      readClassBody_quoteChar _ _ _ (by decide)]
    rfl
  rw [shape]
  simp [readClass, readClassFront, body, nameClass]

theorem readClass_chainClass {fuel : Nat} (enough : 4 ≤ fuel) (closing : Char)
    (rest : List Char) :
    readClass dotAll fuel ('^' :: '\\' :: '\\' :: (quoteChar closing ++ ']' :: rest)) =
      some (chainClass closing, rest) := by
  obtain ⟨fuel, rfl⟩ := Nat.exists_eq_add_of_le' enough
  obtain ⟨next, left, shape, notMeta⟩ := head_quoteChar closing (']' :: rest)
  have notHyphen : next ≠ '-' := notMeta '-' (by decide) (by decide)
  have body : readClassBody dotAll (fuel + 3) none .none ('\\' :: '\\' :: next :: left) =
      some (.union (.union .none (.single '\\')) (.single closing), rest) := by
    rw [readClassBody_escape _ _ _ (readClassRange_backslash notHyphen left), ← shape,
      readClassBody_quoteChar _ _ _ (by decide)]
    rfl
  rw [shape]
  simp [readClass, readClassFront, body, chainClass]

/-- The expression that the pattern of a keyword writes. -/
def keywordExpr (d : Delimiters) : Expr :=
  .seqs [.set (.single d.opening),
    .group 1 (unitsExpr (.negate spaceClass) (nameClass d.closing d.modifier) 1),
    .repeated 0 (some 1) true
      (.seq (.set (.single d.modifier)) (.group 2 (unitsExpr .all (chainClass d.closing) 0))),
    .set (.single d.closing)]

def nameClassText (d : Delimiters) : List Char :=
  '^' :: '\\' :: 's' :: '\\' :: '\\' :: (quoteChar d.closing ++ (quoteChar d.modifier ++ [']']))

def chainClassText (d : Delimiters) : List Char :=
  '^' :: '\\' :: '\\' :: (quoteChar d.closing ++ [']'])

theorem keywordPattern_eq (d : Delimiters) :
    d.keywordPattern = '(' :: '?' :: 's' :: ')' :: (quoteChar d.opening ++
      unitsText ['\\', 'S'] d.nameClassText '+' ('(' :: '?' :: ':' :: (quoteChar d.modifier ++
        unitsText ['.'] d.chainClassText '*' (')' :: '?' :: quoteChar d.closing)))) := by
  unfold keywordPattern
  simp [unitsText, nameClassText, chainClassText]

theorem readParts_name (d : Delimiters) (fuel count : Nat) (parts : List (Option Expr))
    (rest : List Char) :
    readParts (fuel + 9) (behindGroups count) parts
        (unitsText ['\\', 'S'] d.nameClassText '+' rest) =
      readParts (fuel + 7) (behindGroups (count + 1))
        (some (.group (count + 1)
          (unitsExpr (.negate spaceClass) (nameClass d.closing d.modifier) 1)) :: parts) rest := by
  refine readParts_units _ _ _ (fun fuel parts rest => ?_) (fun rest => ?_) (by decide)
  · exact readParts_escape _ _ _ rfl rfl
  · simp only [nameClassText, List.cons_append, List.append_assoc, List.nil_append]
    refine readClass_nameClass ?_ _ _ _
    simp only [List.length_cons]
    omega

theorem readParts_chain (d : Delimiters) (fuel count : Nat) (parts : List (Option Expr))
    (rest : List Char) :
    readParts (fuel + 9) (behindGroups count) parts
        (unitsText ['.'] d.chainClassText '*' rest) =
      readParts (fuel + 7) (behindGroups (count + 1))
        (some (.group (count + 1) (unitsExpr .all (chainClass d.closing) 0)) :: parts) rest := by
  refine readParts_units _ _ _ (fun fuel parts rest => ?_) (fun rest => ?_) (by decide)
  · exact readParts_dot _ _ _ _
  · simp only [chainClassText, List.cons_append, List.append_assoc, List.nil_append]
    refine readClass_chainClass ?_ _ _
    simp only [List.length_cons]
    omega

theorem readBranches_keywordPattern (d : Delimiters) (fuel : Nat) :
    readBranches (fuel + 26) {} d.keywordPattern = some (d.keywordExpr, behindGroups 2, []) := by
  have flags : ∀ text, readParts (fuel + 25) {} [] ('(' :: '?' :: 's' :: ')' :: text) =
      readParts (fuel + 24) (behindGroups 0) [none] text := by
    intro text
    rw [readParts]
    rfl
  have chain : readParts (fuel + 18) (behindGroups 1) [] (quoteChar d.modifier ++
      unitsText ['.'] d.chainClassText '*' (')' :: '?' :: quoteChar d.closing)) =
      some (.seq (.set (.single d.modifier)) (.group 2 (unitsExpr .all (chainClass d.closing) 0)),
        behindGroups 2, ')' :: '?' :: quoteChar d.closing) := by
    rw [readParts_quoteChar _ rfl, readParts_chain, readParts_close]
    rfl
  have closed : ∀ parts, readParts (fuel + 18) (behindGroups 2) parts (quoteChar d.closing) =
      some (joinParts (some (.set (.single d.closing)) :: parts), behindGroups 2, []) := by
    intro parts
    rw [← List.append_nil (quoteChar d.closing), readParts_quoteChar _ rfl, readParts_end]
  obtain ⟨next, left, shape, notMeta⟩ := head_quoteChar d.closing []
  rw [List.append_nil] at shape
  have greedy : next ≠ '?' := notMeta '?' (by decide) (by decide)
  have optional : ('?', 0, some 1) ∈ repetitionMarks := by decide
  have whole : readParts (fuel + 25) {} [] d.keywordPattern =
      some (d.keywordExpr, behindGroups 2, []) := by
    rw [keywordPattern_eq, flags, readParts_quoteChar _ rfl, readParts_name, readParts_plainGroup,
      readGroup_closed _ _ _ (readBranches_one _ chain), shape,
      readParts_repeat _ _ _ _ optional greedy, ← shape, closed]
    rfl
  rw [readBranches, whole]
  rfl

theorem readExpr?_keywordPattern (d : Delimiters) :
    readExpr? {} d.keywordPattern = some (d.keywordExpr, behindGroups 2) := by
  obtain ⟨fuel, enough⟩ : ∃ fuel, 4 * d.keywordPattern.length + 4 = fuel + 26 := by
    refine ⟨4 * d.keywordPattern.length + 4 - 26, ?_⟩
    have length := congrArg List.length d.keywordPattern_eq
    simp [unitsText] at length
    omega
  rw [readExpr?, enough, readBranches_keywordPattern]
  rfl

/-- The pattern of a keyword is a regular expression whatever the delimiters are. -/
theorem parse?_keywordPattern (d : Delimiters) :
    Regex.parse? {} d.keywordPattern = some ⟨Program.ofExpr d.keywordExpr, 2, []⟩ := by
  rw [Regex.parse?, readExpr?_keywordPattern]
  rfl

end Stencil.Delimiters
