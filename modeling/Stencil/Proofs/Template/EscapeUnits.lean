import Stencil.Template.Scan
import Stencil.Template.Calls

namespace Stencil

open Unicode

/-! Texts as runs of units.

In names and in chains a backslash takes the next character with it.  `Units` says that a text can
be read to its end in this way: no character is of a forbidden kind and no backslash is left over.
The readers that stop at a delimiter take exactly such a run, up to the delimiter.
-/

/-- A text made of units: a backslash with a character it may take, or a plain character. -/
inductive Units (plain taken : Char → Prop) : List Char → Prop where
  | nil : Units plain taken []
  | escaped {c : Char} {rest : List Char} :
      taken c → Units plain taken rest → Units plain taken ('\\' :: c :: rest)
  | plain {c : Char} {rest : List Char} :
      c ≠ '\\' → plain c → Units plain taken rest → Units plain taken (c :: rest)

namespace Units

variable {plain taken : Char → Prop} {left right : List Char}

theorem append (leftUnits : Units plain taken left) (rightUnits : Units plain taken right) :
    Units plain taken (left ++ right) := by
  induction leftUnits with
  | nil => exact rightUnits
  | escaped allowed _ restIH => exact .escaped allowed restIH
  | plain notBackslash allowed _ restIH => exact .plain notBackslash allowed restIH

theorem mono {plain' taken' : Char → Prop} (plainLe : ∀ c, c ≠ '\\' → plain c → plain' c)
    (takenLe : ∀ c, taken c → taken' c) {text : List Char} (units : Units plain taken text) :
    Units plain' taken' text := by
  induction units with
  | nil => exact .nil
  | escaped allowed _ restIH => exact .escaped (takenLe _ allowed) restIH
  | plain notBackslash allowed _ restIH =>
      exact .plain notBackslash (plainLe _ notBackslash allowed) restIH

theorem of_plain {text : List Char} (allPlain : ∀ c ∈ text, c ≠ '\\' ∧ plain c) :
    Units plain taken text := by
  induction text with
  | nil => exact .nil
  | cons c rest restIH =>
      obtain ⟨notBackslash, allowed⟩ := allPlain c (by simp)
      have restPlain : ∀ other ∈ rest, other ≠ '\\' ∧ plain other :=
        fun other member => allPlain other (by simp [member])
      exact .plain notBackslash allowed (restIH restPlain)

theorem flatMap {α : Type} {items : List α} {text : α → List Char}
    (all : ∀ item ∈ items, Units plain taken (text item)) :
    Units plain taken (items.flatMap text) := by
  induction items with
  | nil => exact .nil
  | cons item rest restIH =>
      rw [List.flatMap_cons]
      exact (all item (by simp)).append (restIH fun other member => all other (by simp [member]))

end Units

theorem isDelimiterChar_iff {c : Char} :
    isDelimiterChar c = true ↔
      isAlphanumeric c = false ∧ isWhiteSpace c = false ∧ c ≠ '_' ∧ c ≠ '-' ∧ c ≠ '\\' := by
  simp [isDelimiterChar, isReserved, and_assoc]

theorem letter_ne {c delimiter : Char} (letter : isAlphabetic c = true)
    (allowed : isDelimiterChar delimiter = true) : c ≠ delimiter := by
  intro same
  subst same
  have notAlphanumeric := (isDelimiterChar_iff.mp allowed).1
  simp [isAlphanumeric, letter] at notAlphanumeric

theorem letter_ne_backslash {c : Char} (letter : isAlphabetic c = true) : c ≠ '\\' := by
  intro same
  subst same
  exact absurd letter (by decide)

/-- What the readers by units take for a plain character is no backslash. -/
theorem ne_backslash_of_unpaired {c : Char} {rest : List Char}
    (notEnd : c = '\\' → rest = [] → False)
    (notPair : ∀ next others, c = '\\' → rest = next :: others → False) : c ≠ '\\' := by
  intro same
  cases rest with
  | nil => exact notEnd same rfl
  | cons next others => exact notPair next others same rfl

namespace Delimiters

variable {d : Delimiters}

@[simp] theorem opening_ne_backslash (d : Delimiters) : d.opening ≠ '\\' :=
  (isDelimiterChar_iff.mp d.opening_allowed).2.2.2.2

@[simp] theorem closing_ne_backslash (d : Delimiters) : d.closing ≠ '\\' :=
  (isDelimiterChar_iff.mp d.closing_allowed).2.2.2.2

@[simp] theorem modifier_ne_backslash (d : Delimiters) : d.modifier ≠ '\\' :=
  (isDelimiterChar_iff.mp d.modifier_allowed).2.2.2.2

@[simp] theorem parameter_ne_backslash (d : Delimiters) : d.parameter ≠ '\\' :=
  (isDelimiterChar_iff.mp d.parameter_allowed).2.2.2.2

@[simp] theorem isEscapable_backslash (d : Delimiters) : d.isEscapable '\\' = false := by
  simp [isEscapable, Ne.symm (modifier_ne_backslash d), Ne.symm (parameter_ne_backslash d),
    Ne.symm (closing_ne_backslash d), Ne.symm (opening_ne_backslash d)]

/-- The texts that can stand as a name: no white space, and no delimiter that ends a name unless a
backslash takes it. -/
def NameText (d : Delimiters) : List Char → Prop :=
  Units (fun c => isWhiteSpace c = false ∧ c ≠ d.closing ∧ c ≠ d.modifier)
    (fun c => isWhiteSpace c = false)

/-- The texts that can stand as a chain. -/
def ChainText (d : Delimiters) : List Char → Prop :=
  Units (fun c => c ≠ d.closing) (fun _ => True)

theorem takeName_plain {c : Char} (notBackslash : c ≠ '\\') (rest : List Char) :
    d.takeName (c :: rest) =
      if isWhiteSpace c ∨ c = d.closing ∨ c = d.modifier then ([], c :: rest)
      else (c :: (d.takeName rest).1, (d.takeName rest).2) := by
  rw [takeName]
  · simp [or_assoc]
  · intro same
    subst same
    contradiction
  · intro next others same
    subst same
    contradiction

theorem takeChain_plain {c : Char} (notBackslash : c ≠ '\\') (rest : List Char) :
    d.takeChain (c :: rest) =
      if c = d.closing then ([], c :: rest)
      else (c :: (d.takeChain rest).1, (d.takeChain rest).2) := by
  rw [takeChain]
  · intro same
    subst same
    contradiction
  · intro next others same
    subst same
    contradiction

theorem takeName_nameText (d : Delimiters) (text : List Char) : d.NameText (d.takeName text).1 := by
  fun_induction d.takeName text with
  | case1 => exact .nil
  | case2 => exact .nil
  | case3 => exact .nil
  | case4 c rest notWhite restIH => exact .escaped (by simpa using notWhite) restIH
  | case5 => exact .nil
  | case6 c rest notEnd notPair allowed restIH =>
      exact .plain (ne_backslash_of_unpaired notEnd notPair) (by simpa [and_assoc] using allowed)
        restIH

theorem takeChain_chainText (d : Delimiters) (text : List Char) :
    d.ChainText (d.takeChain text).1 := by
  fun_induction d.takeChain text with
  | case1 => exact .nil
  | case2 => exact .nil
  | case3 c rest restIH => exact .escaped trivial restIH
  | case4 => exact .nil
  | case5 c rest notEnd notPair allowed restIH =>
      exact .plain (ne_backslash_of_unpaired notEnd notPair) allowed restIH

theorem takeName_append_units {name : List Char} (units : d.NameText name) (rest : List Char) :
    d.takeName (name ++ rest) = (name ++ (d.takeName rest).1, (d.takeName rest).2) := by
  induction units with
  | nil => rfl
  | escaped notWhite _ restIH => simp [takeName, notWhite, restIH]
  | plain notBackslash allowed _ restIH =>
      rw [List.cons_append, takeName_plain notBackslash, if_neg (by simp [allowed]), restIH]
      rfl

theorem takeChain_append_units {chain : List Char} (units : d.ChainText chain) (rest : List Char) :
    d.takeChain (chain ++ rest) = (chain ++ (d.takeChain rest).1, (d.takeChain rest).2) := by
  induction units with
  | nil => rfl
  | escaped _ _ restIH => simp [takeChain, restIH]
  | plain notBackslash allowed _ restIH =>
      rw [List.cons_append, takeChain_plain notBackslash, if_neg allowed, restIH]
      rfl

theorem takeName_closing (d : Delimiters) (rest : List Char) :
    d.takeName (d.closing :: rest) = ([], d.closing :: rest) := by
  simp [takeName_plain]

theorem takeName_modifier (d : Delimiters) (rest : List Char) :
    d.takeName (d.modifier :: rest) = ([], d.modifier :: rest) := by
  simp [takeName_plain]

theorem takeChain_closing (d : Delimiters) (rest : List Char) :
    d.takeChain (d.closing :: rest) = ([], d.closing :: rest) := by
  simp [takeChain_plain]

end Delimiters

end Stencil
