import Stencil.Proofs.Modifier.Steadiness
import Stencil.Proofs.Modifier.Unfolding
import Stencil.Proofs.Text.UnitPatterns

namespace Stencil.Registry

open Text

/-! What the built-in modifiers that limit length make of texts.

They are alike but for the cut: code is stripped first unless the flag forbids it, and a cut after
more units never yields less (`truncation_of_cut`).
-/

/-- What the built-in steps of the plain text modifier do, in their order. -/
def codeStrippers : List (List Char → List Char) :=
  [Markup.cdata.removeAll, Markup.scriptElement.removeAll, Markup.styleElement.removeAll,
    Markup.comment.removeAll]

def withoutCode (text : List Char) : List Char :=
  codeStrippers.foldl (fun text strip => strip text) text

/-- The text that is cut: without code unless the flag is `0`. -/
def uncut (flag : Option String) (s : String) : String :=
  if (flag.map fun flag => Unicode.trim flag.toList) = some ['0'] then s
  else String.ofList (withoutCode s.toList)

theorem sequence_texts {transforms : List Transform} {functions : List (List Char → List Char)}
    (each : List.Forall₂ (fun transform f => ∀ s : String,
      transform (.string s) = some (.string (String.ofList (f s.toList)))) transforms functions)
    (s : String) :
    Transform.sequence transforms (.string s) =
      some (.string (String.ofList (functions.foldl (fun text f => f text) s.toList))) := by
  induction each generalizing s with
  | nil => rw [Transform.sequence_nil, List.foldl_nil, String.ofList_toList]
  | cons first _ restIH =>
      rw [Transform.sequence_cons, first, Option.bind_some, restIH, String.toList_ofList,
        List.foldl_cons]

theorem stepTransform_of_text [Regex.Limits] {name : String} {f : List Char → List Char}
    (member : name ∈ Modifier.lookedUp) (known : builtin.find? name = some (.text f)) (s : String) :
    builtin.stepTransform (.call name) (.string s) =
      some (.string (String.ofList (f s.toList))) := by
  rw [stepTransform_call member, resolve_of_text known]

theorem stepTransform_plainTextSteps [Regex.Limits] :
    List.Forall₂ (fun (transform : Transform) strip => ∀ s : String,
        transform (.string s) = some (.string (String.ofList (strip s.toList))))
      ((Modifier.plainTextSteps.map .call).map builtin.stepTransform) codeStrippers := by
  refine .cons (fun s => ?_) (.cons (fun s => ?_) (.cons (fun s => ?_) (.cons (fun s => ?_) .nil)))
  all_goals
    refine stepTransform_of_text (by decide) ?_ s
    rw [find?_builtin]
    rfl

theorem resolve_of_plainText [Regex.Limits] {name : String}
    (known : builtin.find? name = some Modifier.plainText) (params : List String) (s : String) :
    builtin.resolve ⟨name, params⟩ (.string s) =
      some (.string (String.ofList (withoutCode s.toList))) := by
  have resolved : builtin.resolve ⟨name, params⟩ =
      Transform.sequence ((Modifier.plainTextSteps.map .call).map builtin.stepTransform) :=
    resolve_of_steps (finishes_builtin _) known rfl
  rw [resolved, sequence_texts stepTransform_plainTextSteps]
  rfl

theorem resolve_plainText [Regex.Limits] (s : String) :
    builtin.resolve ⟨Modifier.plainTextName, []⟩ (.string s) =
      some (.string (String.ofList (withoutCode s.toList))) := by
  refine resolve_of_plainText ?_ [] s
  rw [find?_builtin]
  rfl

theorem sequence_stripFirst [Regex.Limits] (flag : Option String) (s : String) :
    Transform.sequence ((Modifier.stripFirst flag).map builtin.stepTransform) (.string s) =
      some (.string (uncut flag s)) := by
  rw [Modifier.stripFirst, uncut]
  split
  · rfl
  · rw [List.map_singleton, stepTransform_call List.mem_cons_self, Transform.sequence_cons,
      resolve_plainText]
    rfl

theorem resolve_of_cut [Regex.Limits] {name : String} {params : List String} {modifier : Modifier}
    {f : List Char → List Char} (known : builtin.find? name = some modifier)
    (steps : modifier.steps? params = some (Modifier.stripFirst params[1]? ++
      [.apply (.total (Value.onText f))])) (s : String) :
    builtin.resolve ⟨name, params⟩ (.string s) =
      some (.string (String.ofList (f (uncut params[1]? s).toList))) := by
  have resolved : builtin.resolve ⟨name, params⟩ = Transform.sequence
      ((Modifier.stripFirst params[1]? ++ [Step.apply (.total (Value.onText f))]).map
        builtin.stepTransform) :=
    resolve_of_steps (finishes_builtin _) known steps
  rw [resolved, List.map_append, Transform.sequence_append, sequence_stripFirst, Option.bind_some]
  rfl

theorem pos_of_positiveCount? {param : Option String} {count : Nat}
    (given : Modifier.positiveCount? param = some count) : 0 < count := by
  obtain ⟨x, _, rounded⟩ := Option.bind_eq_some_iff.mp given
  simp only [Option.ite_none_left_eq_some, Option.pure_def, Option.some.injEq] at rounded
  obtain ⟨usable, rfl⟩ := rounded
  have nonzero : (2 * x.units + Binary64.one) / (2 * Binary64.one) ≠ 0 := by
    intro zero
    exact usable (by simp [zero])
  exact Nat.lt_min.mpr ⟨Nat.pos_of_ne_zero nonzero, by decide⟩

/-- A limit yields a front of the text, and with the next larger count at least that. -/
structure Truncation [Regex.Limits] (name : String) (params : List String) (count : Nat)
    (s whole result : String) :
    Prop where
  yields : builtin.resolve ⟨name, params⟩ (.string s) = some (.string result)
  isFront : result.toList <+: whole.toList
  grows : ∀ more : List String, Modifier.positiveCount? more[0]? = some (count + 1) →
    more[1]? = params[1]? → ∃ longer : String,
      builtin.resolve ⟨name, more⟩ (.string s) = some (.string longer) ∧
        result.toList <+: longer.toList

/-- Modifiers that cut after a number of units, stripping code first. -/
structure LimitsBy (modifier : Modifier) (cut : Nat → List Char → List Char) : Prop where
  steps : ∀ {params : List String} {count : Nat}, Modifier.positiveCount? params[0]? = some count →
    modifier.steps? params =
      some (Modifier.stripFirst params[1]? ++ [.apply (.total (Value.onText (cut count)))])
  isFront : ∀ count text, cut count text <+: text
  grows : ∀ count text, cut count text <+: cut (count + 1) text

theorem limitsBy_limitUnits {next : TakeUnit} (lawful : Lawful next) :
    LimitsBy (Modifier.limitUnits next) (truncateAfter next) where
  steps given := by
    simp only [Modifier.limitUnits, given]
    rfl
  isFront := truncateAfter_prefix lawful
  grows := truncateAfter_prefix_succ lawful

theorem limitsBy_maxChars : LimitsBy Modifier.maxChars List.take where
  steps given := by
    simp only [Modifier.maxChars, given]
    rfl
  isFront count text := List.take_prefix count text
  grows count text := List.take_prefix_take_left (Nat.le_succ count)

theorem LimitsBy.truncation [Regex.Limits] {modifier : Modifier} {cut : Nat → List Char → List Char}
    (limits : LimitsBy modifier cut) {name : String} (known : builtin.find? name = some modifier)
    {params : List String} {count : Nat}
    (given : Modifier.positiveCount? params[0]? = some count) (s : String) :
    Truncation name params count s (uncut params[1]? s)
      (String.ofList (cut count (uncut params[1]? s).toList)) where
  yields := resolve_of_cut known (limits.steps given) s
  isFront := by
    rw [String.toList_ofList]
    exact limits.isFront _ _
  grows more moreGiven sameFlag := by
    refine ⟨_, resolve_of_cut known (limits.steps moreGiven) s, ?_⟩
    rw [sameFlag, String.toList_ofList, String.toList_ofList]
    exact limits.grows _ _

theorem exists_cut [Regex.Limits] {next : TakeUnit} {regex : Regex} (finds : Finds regex next)
    (lawful : Lawful next) {name : String}
    (known : builtin.find? name = some (.limitUnits next)) {params : List String} {count : Nat}
    (given : Modifier.positiveCount? params[0]? = some count) (s : String) :
    ∃ result : String, Truncation name params count s (uncut params[1]? s) result ∧
      CutAfter regex count (uncut params[1]? s).toList result.toList ∧
      result.toList = truncateAfter next count (uncut params[1]? s).toList := by
  refine ⟨_, (limitsBy_limitUnits lawful).truncation known given s, ?_, String.toList_ofList⟩
  rw [String.toList_ofList]
  exact cutAfter_truncateAfter finds lawful (pos_of_positiveCount? given) _

/-- The modifiers that limit length cut texts behind a number of characters, or behind the end of a
match of the pattern for words or sentences. -/
theorem limits_cut_at_units [Regex.Limits] {params : List String} {count : Nat}
    (given : Modifier.positiveCount? params[0]? = some count) (s : String) :
    Regex.parse? {} wordPattern = some wordRegex ∧
    Regex.parse? {} sentencePattern = some sentenceRegex ∧
    ∃ whole : String,
      (if (params[1]?.map fun flag => Unicode.trim flag.toList) = some ['0'] then whole = s
        else builtin.resolve ⟨"text", []⟩ (.string s) = some (.string whole)) ∧
      (∀ name ∈ ["maxchars", "characters", "chars"], ∃ result,
        Truncation name params count s whole result ∧
          result.toList = whole.toList.take count) ∧
      (∀ name ∈ ["maxwords", "words"], ∃ result,
        Truncation name params count s whole result ∧
          CutAfter wordRegex count whole.toList result.toList ∧
          (wordRegex.findAll result.toList).length =
            min count (wordRegex.findAll whole.toList).length) ∧
      (∀ name ∈ ["maxsentences", "sentences"], ∃ result,
        Truncation name params count s whole result ∧
          CutAfter sentenceRegex count whole.toList result.toList ∧
          (sentenceRegex.findAll result.toList).length ≤ count) := by
  refine ⟨parse?_wordPattern, parse?_sentencePattern, uncut params[1]? s, ?_, ?_, ?_, ?_⟩
  · rw [uncut]
    split
    · rfl
    · exact resolve_plainText s
  · intro name member
    have known : builtin.find? name = some Modifier.maxChars := by
      rw [find?_builtin]
      simp only [List.mem_cons, List.not_mem_nil, or_false] at member
      rcases member with rfl | rfl | rfl <;> rfl
    exact ⟨_, limitsBy_maxChars.truncation known given s, String.toList_ofList⟩
  · intro name member
    have known : builtin.find? name = some Modifier.maxWords := by
      rw [find?_builtin]
      simp only [List.mem_cons, List.not_mem_nil, or_false] at member
      rcases member with rfl | rfl <;> rfl
    obtain ⟨result, truncation, cut, same⟩ :=
      exists_cut finds_takeWord lawful_takeWord known given s
    refine ⟨result, truncation, cut, ?_⟩
    rw [same]
    exact length_findAll_words _ _
  · intro name member
    have known : builtin.find? name = some Modifier.maxSentences := by
      rw [find?_builtin]
      simp only [List.mem_cons, List.not_mem_nil, or_false] at member
      rcases member with rfl | rfl <;> rfl
    obtain ⟨result, truncation, cut, same⟩ :=
      exists_cut finds_takeSentence lawful_takeSentence known given s
    refine ⟨result, truncation, cut, ?_⟩
    rw [same]
    exact length_findAll_sentences_le _ _

theorem two_words_of_four :
    Modifier.positiveCount? (["2", "0"] : List String)[0]? = some 2 ∧
      ∃ result : String,
        builtin.resolve ⟨"maxwords", ["2", "0"]⟩ (.string "one two-three, four five") =
            some (.string result) ∧
          CutAfter wordRegex 2 "one two-three, four five".toList result.toList := by
  have given : Modifier.positiveCount? (["2", "0"] : List String)[0]? = some 2 := by
    decide +kernel
  obtain ⟨_, _, whole, isWhole, _, words, _⟩ :=
    limits_cut_at_units given "one two-three, four five"
  rw [if_pos (by decide)] at isWhole
  subst isWhole
  obtain ⟨result, truncation, cut, _⟩ := words "maxwords" (by decide)
  exact ⟨given, result, truncation.yields, cut⟩

end Stencil.Registry
