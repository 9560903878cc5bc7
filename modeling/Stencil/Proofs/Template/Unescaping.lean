import Stencil.Proofs.Template.Splitting

namespace Stencil

/-! Removing escapes, and the reading that decides what is escaped.

Names, chains and parts are read in glyphs: a backslash makes a pair with the next character, and
what belongs to no pair is plain.  Removing escapes looks one character ahead instead.  Both agree
on a text unless it has a doubled backslash directly in front of a plain special character: there
the second backslash, which the reading has used up, still takes the character after it.
-/

/-- What one step of reading takes.  A backslash at the end of a text is plain. -/
inductive Glyph where
  | plain (c : Char)
  | pair (c : Char)
deriving DecidableEq

/-- The glyphs of a text from left to right. -/
def glyphs : List Char → List Glyph
  | [] => []
  | ['\\'] => [.plain '\\']
  | '\\' :: c :: rest => .pair c :: glyphs rest
  | c :: rest => .plain c :: glyphs rest

namespace Glyph

def source : Glyph → List Char
  | .plain c => [c]
  | .pair c => ['\\', c]

end Glyph

theorem glyphs_plain {c : Char} (notBackslash : c ≠ '\\') (rest : List Char) :
    glyphs (c :: rest) = .plain c :: glyphs rest := by
  rw [glyphs]
  · intro same
    subst same
    contradiction
  · intro next others same
    subst same
    contradiction

namespace Delimiters

variable {d : Delimiters}

/-- The characters that a backslash makes literal. -/
def special (d : Delimiters) : List Char :=
  [d.opening, d.closing, d.modifier, d.parameter, '%']

theorem isEscapable_iff {c : Char} : d.isEscapable c = true ↔ c ∈ d.special := by
  simp only [isEscapable, special, Bool.or_eq_true, decide_eq_true_eq, List.mem_cons,
    List.not_mem_nil, or_false]
  grind

theorem backslash_not_special (d : Delimiters) : '\\' ∉ d.special := by
  rw [← isEscapable_iff]
  simp

theorem ne_backslash_of_special {c : Char} (isSpecial : c ∈ d.special) : c ≠ '\\' := by
  intro same
  subst same
  exact backslash_not_special d isSpecial

theorem unescape_special {c : Char} (isSpecial : c ∈ d.special) (rest : List Char) :
    d.unescape ('\\' :: c :: rest) = c :: d.unescape rest := by
  simp [unescape, isEscapable_iff.mpr isSpecial]

theorem unescape_plain {c : Char} (notBackslash : c ≠ '\\') (rest : List Char) :
    d.unescape (c :: rest) = c :: d.unescape rest := by
  cases rest <;> simp [unescape, notBackslash]

theorem unescape_backslash {rest : List Char} (follows : ∀ c ∈ rest.head?, c ∉ d.special) :
    d.unescape ('\\' :: rest) = '\\' :: d.unescape rest := by
  cases rest with
  | nil => rfl
  | cons c rest =>
      have notEscapable : ¬ d.isEscapable c = true := by
        rw [isEscapable_iff]
        exact follows c rfl
      simp [unescape, notEscapable]

/-- A glyph with its escape removed: a pair of a backslash and a special character is that
character, and every other glyph stays as it is written. -/
def literal (d : Delimiters) : Glyph → List Char
  | .plain c => [c]
  | .pair c => if c ∈ d.special then [c] else ['\\', c]

/-- The text with the escapes removed that its reading in glyphs has. -/
def readEscapes (d : Delimiters) (text : List Char) : List Char :=
  (glyphs text).flatMap d.literal

/-- Somewhere a doubled backslash stands directly in front of a special character that no backslash
takes. -/
def HasSpentBackslash (d : Delimiters) (text : List Glyph) : Prop :=
  ∃ c ∈ d.special, [.pair '\\', .plain c] <:+: text

@[simp] theorem not_hasSpentBackslash_nil (d : Delimiters) : ¬ d.HasSpentBackslash [] := by
  simp [HasSpentBackslash]

theorem hasSpentBackslash_cons {glyph : Glyph} {rest : List Glyph} :
    d.HasSpentBackslash (glyph :: rest) ↔
      (glyph = .pair '\\' ∧ ∃ c ∈ d.special, rest.head? = some (.plain c)) ∨
        d.HasSpentBackslash rest := by
  constructor
  · intro special
    obtain ⟨c, isSpecial, found⟩ := special
    rcases List.infix_cons_iff.mp found with front | later
    · obtain ⟨same, next⟩ := List.cons_prefix_cons.mp front
      obtain ⟨after, shape⟩ := next
      exact .inl ⟨same.symm, c, isSpecial, by rw [← shape]; rfl⟩
    · exact .inr ⟨c, isSpecial, later⟩
  · intro spent
    obtain ⟨rfl, c, isSpecial, next⟩ | ⟨c, isSpecial, later⟩ := spent
    · obtain ⟨after, rfl⟩ := List.head?_eq_some_iff.mp next
      exact ⟨c, isSpecial, [], after, rfl⟩
    · exact ⟨c, isSpecial, List.infix_cons later⟩

theorem head?_glyphs {c : Char} (notBackslash : c ≠ '\\') {text : List Char} :
    (glyphs text).head? = some (.plain c) ↔ text.head? = some c := by
  fun_induction glyphs text with
  | case1 => simp
  | case2 => simp [Ne.symm notBackslash]
  | case3 next rest _ => simp [Ne.symm notBackslash]
  | case4 next rest _ _ _ => simp

theorem special_front_iff {rest : List Char} :
    (∃ c ∈ d.special, (glyphs rest).head? = some (.plain c)) ↔
      ∃ c ∈ d.special, rest.head? = some c := by
  constructor
  · intro front
    obtain ⟨c, isSpecial, shape⟩ := front
    exact ⟨c, isSpecial, (head?_glyphs (ne_backslash_of_special isSpecial)).mp shape⟩
  · intro front
    obtain ⟨c, isSpecial, shape⟩ := front
    exact ⟨c, isSpecial, (head?_glyphs (ne_backslash_of_special isSpecial)).mpr shape⟩

/-- Removing escapes agrees with the reading exactly where no backslash that the reading has used up
stands in front of a plain special character. -/
theorem unescape_eq_readEscapes_iff (d : Delimiters) (text : List Char) :
    d.unescape text = d.readEscapes text ↔ ¬ d.HasSpentBackslash (glyphs text) := by
  unfold readEscapes
  fun_induction glyphs text with
  | case1 => simp [unescape]
  | case2 => simp [unescape, literal, hasSpentBackslash_cons]
  | case3 c rest restIH =>
      rw [hasSpentBackslash_cons, List.flatMap_cons]
      by_cases isSpecial : c ∈ d.special
      · have notBackslash : c ≠ '\\' := ne_backslash_of_special isSpecial
        rw [unescape_special isSpecial, literal, if_pos isSpecial]
        simpa [notBackslash] using restIH
      · rw [literal, if_neg isSpecial, unescape_backslash (by simpa using isSpecial)]
        by_cases backslash : c = '\\'
        · subst backslash
          by_cases spent : ∃ next ∈ d.special, rest.head? = some next
          · -- The second backslash takes a character of which the reading says that it is plain.
            have front := special_front_iff.mpr spent
            obtain ⟨next, nextSpecial, follows⟩ := spent
            have notBackslash : next ≠ '\\' := ne_backslash_of_special nextSpecial
            obtain ⟨after, rfl⟩ := List.head?_eq_some_iff.mp follows
            rw [unescape_special nextSpecial]
            have differ : '\\' :: next :: d.unescape after ≠
                ['\\', '\\'] ++ (glyphs (next :: after)).flatMap d.literal := by
              simp [notBackslash]
            exact iff_of_false differ fun none => none (.inl ⟨rfl, front⟩)
          · rw [unescape_backslash fun next follows isNext => spent ⟨next, isNext, follows⟩]
            have unspent := mt special_front_iff.mp spent
            simpa [unspent] using restIH
        · rw [unescape_plain backslash]
          simpa [backslash] using restIH
  | case4 c rest notEnd notPair restIH =>
      rw [unescape_plain (ne_backslash_of_unpaired notEnd notPair), hasSpentBackslash_cons]
      simpa [literal] using restIH

end Delimiters

theorem glyphs_eq_nil_iff {text : List Char} : glyphs text = [] ↔ text = [] := by
  fun_induction glyphs text <;> simp

/-- Cutting a text at the separators that are not escaped cuts its reading at the plain ones. -/
theorem glyphs_splitUnescaped {separator : Char} (notBackslash : separator ≠ '\\')
    (text : List Char) :
    (splitUnescaped separator text).map glyphs = (glyphs text).splitOn (.plain separator) := by
  simp only [splitUnescaped, List.map_cons]
  fun_induction glyphs text with
  | case1 => rfl
  | case2 =>
      have different : ¬ '\\' = separator := Ne.symm notBackslash
      simp [cutUnescaped, different, glyphs, List.splitOn, List.splitOnP_cons_eq_if_modifyHead]
  | case3 c rest restIH =>
      simp only [List.splitOn] at restIH ⊢
      rw [cutUnescaped_escaped, List.splitOnP_cons_eq_if_modifyHead, ← restIH]
      simp [glyphs]
  | case4 c rest notEnd notPair restIH =>
      have plain : c ≠ '\\' := ne_backslash_of_unpaired notEnd notPair
      simp only [List.splitOn] at restIH ⊢
      by_cases here : c = separator
      · rw [here, cutUnescaped_separator notBackslash, List.splitOnP_cons_eq_if_modifyHead,
          ← restIH]
        simp [glyphs]
      · rw [cutUnescaped_plain plain here, List.splitOnP_cons_eq_if_modifyHead, ← restIH]
        simp [glyphs_plain plain, here]

namespace Delimiters

variable {d : Delimiters}

/-- The parameters of each call of a chain as its reading in glyphs has them: the calls are what
stands between plain modifier delimiters, those that are empty left out, and what follows each plain
parameter delimiter of a call is a parameter. -/
def readParams (d : Delimiters) (chain : List Char) : List (List (List Glyph)) :=
  (((glyphs chain).splitOn (.plain d.modifier)).filter (!·.isEmpty)).map fun call =>
    (call.splitOn (.plain d.parameter)).tail

/-- The parameters of each call as they are cut out of the text. -/
def rawParams (d : Delimiters) (chain : List Char) : List (List (List Char)) :=
  ((splitUnescaped d.modifier chain).filter (!·.isEmpty)).map fun source =>
    (splitUnescaped d.parameter source).tail

theorem readParams_eq (d : Delimiters) (chain : List Char) :
    d.readParams chain = (d.rawParams chain).map (·.map glyphs) := by
  have sameEmpty : (fun part : List Char => !(glyphs part).isEmpty) = (!·.isEmpty) := by
    funext part
    cases part with
    | nil => rfl
    | cons c rest =>
        have nonempty : glyphs (c :: rest) ≠ [] := fun isEmpty => by
          simpa using glyphs_eq_nil_iff.mp isEmpty
        simp [nonempty]
  rw [readParams, rawParams, ← glyphs_splitUnescaped d.modifier_ne_backslash, List.filter_map,
    List.map_map, List.map_map]
  simp only [Function.comp_def, sameEmpty, ← glyphs_splitUnescaped d.parameter_ne_backslash,
    List.map_tail]

theorem ofChain_params (d : Delimiters) (chain : List Char) :
    (ModifierCall.ofChain d chain).map (·.params) =
      (d.rawParams chain).map (·.map fun raw => String.ofList (d.unescape raw)) := by
  rw [ModifierCall.ofChain, rawParams, List.map_map, List.map_map]
  rfl

/-- The parameters of a chain are those of its reading, with the escapes removed that the reading
has, exactly if no parameter has a backslash that the reading has used up in front of a plain
special character. -/
theorem params_eq_readParams_iff (d : Delimiters) (chain : List Char) :
    (ModifierCall.ofChain d chain).map (·.params) =
        (d.readParams chain).map (·.map fun raw => String.ofList (raw.flatMap d.literal)) ↔
      ∀ params ∈ d.readParams chain, ∀ raw ∈ params, ¬ d.HasSpentBackslash raw := by
  rw [ofChain_params, readParams_eq, List.map_map]
  simp only [List.map_inj_left, List.forall_mem_map, Function.comp_apply, List.map_map,
    String.ofList_inj]
  constructor
  · intro same params member raw rawMember
    exact (unescape_eq_readEscapes_iff d raw).mp (same params member raw rawMember)
  · intro unspent params member raw rawMember
    exact (unescape_eq_readEscapes_iff d raw).mpr (unspent params member raw rawMember)

/-- A doubled backslash in front of a plain percent sign loses one of its backslashes. -/
theorem spent_backslash_taken :
    (ModifierCall.ofChain standard "a:x\\\\%".toList).map (·.params) = [["x\\%"]] ∧
      (ModifierCall.ofChain standard "a:x\\\\%".toList).map (·.params) ≠
        (standard.readParams "a:x\\\\%".toList).map
          (·.map fun raw => String.ofList (raw.flatMap standard.literal)) := by
  decide

end Delimiters

end Stencil
