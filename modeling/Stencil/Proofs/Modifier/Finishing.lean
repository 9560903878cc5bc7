import Stencil.Proofs.Modifier.Changes
import Stencil.Proofs.Modifier.Nesting

namespace Stencil

/-! When resolving always comes to an end.

Of the catalogue only the plain text modifier and those that limit length look other modifiers up,
and all that they look up is the plain text modifier and its steps.  Resolving can go round in
circles only if one of these names has been given to one of those modifiers.
-/

namespace Modifier

/-- A modifier that looks nothing up. -/
def SelfContained (modifier : Modifier) : Prop :=
  ∀ params, modifier.calledNames params = []

@[simp] theorem selfContained_ofTransform (transform? : List String → Option Transform) :
    (ofTransform transform?).SelfContained := by
  intro params
  simp only [calledNames, ofTransform]
  cases transform? params <;> rfl

@[simp] theorem selfContained_direct (function? : List String → Option (Value → Value)) :
    (direct function?).SelfContained :=
  selfContained_ofTransform _

@[simp] theorem selfContained_text (f : List Char → List Char) : (text f).SelfContained :=
  selfContained_direct _

/-- The modifiers of the catalogue that look others up. -/
def composites : List Modifier :=
  [plainText, maxWords, maxSentences, maxChars]

theorem selfContained_or_mem_composites [Regex.Limits] {entry : List String × Modifier}
    (member : entry ∈ catalogue) : entry.2.SelfContained ∨ entry.2 ∈ composites := by
  have plain : ∀ entry ∈ spellingFamily ++ branchFamily ++ arithmeticFamily ++ patternFamily ++
      dateFamily, entry.2.SelfContained := by
    simp [spellingFamily, branchFamily, emptiness, matching, notMatching, containing,
      notContaining, textTest, greater, greaterOrEqual, less, lessOrEqual, numberTest,
      arithmeticFamily, add, subtract, multiply, divide, increment, decrement, round, ceil, floor,
      binary, patternFamily, patternTest, patternReplace, dateFamily, dateFormat]
  have mixed : ∀ entry ∈ markupFamily ++ cleanupFamily,
      entry.2.SelfContained ∨ entry.2 ∈ composites := by
    simp [markupFamily, cleanupFamily, composites, noLines]
  rw [catalogue] at member
  simp only [List.mem_append] at member plain mixed
  grind

/-- The names that composites look up. -/
def lookedUp : List String :=
  plainTextName :: plainTextSteps

theorem normalizeName_lookedUp {name : String} (member : name ∈ lookedUp) :
    normalizeName name = name := by
  have lower : (lookedUp.all fun name => name.toList.all Char.isLower) = true := by decide
  exact normalizeName_of_ascii_lower (List.all_eq_true.mp lower name member)

theorem calledNames_plainText (params : List String) :
    plainText.calledNames params = plainTextSteps := rfl

/-- Without parameters a limit on characters applies too, and strips code first. -/
theorem calledNames_maxChars : maxChars.calledNames [] = [plainTextName] := rfl

theorem calledNames_stripFirst (flag : Option String) (transform : Transform) :
    ∀ name ∈ (stripFirst flag ++ [Step.apply transform]).filterMap Step.called?,
      name = plainTextName := by
  rw [stripFirst]
  split <;> simp [Step.called?]

theorem calledNames_limitUnits (next : Text.TakeUnit) (params : List String) :
    ∀ name ∈ (limitUnits next).calledNames params, name = plainTextName := by
  simp only [calledNames, limitUnits]
  cases positiveCount? params[0]? with
  | none => simp
  | some count => exact calledNames_stripFirst params[1]? _

/-- Without a count a limit on words or sentences is rejected before it looks anything up. -/
theorem calledNames_limitUnits_nil (next : Text.TakeUnit) :
    (limitUnits next).calledNames [] = [] := rfl

theorem calledNames_composite {modifier : Modifier} (composite : modifier ∈ composites)
    (params : List String) : ∀ name ∈ modifier.calledNames params, name ∈ lookedUp := by
  simp only [composites, List.mem_cons, List.not_mem_nil, or_false] at composite
  intro name called
  rcases composite with rfl | rfl | rfl | rfl
  · exact List.mem_cons_of_mem _ called
  · rw [calledNames_limitUnits _ _ name called]
    exact List.mem_cons_self
  · rw [calledNames_limitUnits _ _ name called]
    exact List.mem_cons_self
  · rw [calledNames_stripFirst _ _ name called]
    exact List.mem_cons_self

end Modifier

namespace Registry

open Modifier

variable {registry : Registry}

theorem all_after [Regex.Limits] {changes : List Change}
    (selfContained : ∀ name modifier, .register name modifier ∈ changes → modifier.SelfContained) :
    (builtin.after changes).All fun modifier =>
      modifier.SelfContained ∨ modifier ∈ composites :=
  (all_builtin fun _ member => selfContained_or_mem_composites member).after
    fun name modifier member => .inl (selfContained name modifier member)

/-- None of the names that composites look up leads back to itself. -/
structure Untangled (registry : Registry) : Prop where
  step_ne_plainText : ∀ name ∈ plainTextSteps, registry.find? name ≠ some plainText
  text_ne_maxChars : registry.find? plainTextName ≠ some maxChars
  step_ne_maxChars : registry.find? plainTextName = some plainText →
    ∀ name ∈ plainTextSteps, registry.find? name ≠ some maxChars

theorem nestedCalls_of_find? {call : ModifierCall} {modifier : Modifier}
    (known : registry.find? call.name = some modifier) :
    registry.nestedCalls call = (modifier.calledNames call.params).map (.named · []) := by
  simp only [nestedCalls, known]

theorem named_lookedUp {name : String} (member : name ∈ lookedUp) :
    ModifierCall.named name [] = ⟨name, []⟩ := by
  rw [ModifierCall.named, normalizeName_lookedUp member]

section

variable (all : registry.All fun modifier => modifier.SelfContained ∨ modifier ∈ composites)

include all

theorem nestedCalls_lookedUp (call : ModifierCall) :
    ∀ inner ∈ registry.nestedCalls call, ∃ name ∈ lookedUp, inner = ⟨name, []⟩ := by
  intro inner nested
  cases known : registry.find? call.name with
  | none => simp [nestedCalls, known] at nested
  | some modifier =>
      rw [nestedCalls_of_find? known] at nested
      obtain ⟨name, called, rfl⟩ := List.mem_map.mp nested
      rcases all _ _ known with selfContained | composite
      · rw [selfContained call.params] at called
        cases called
      · have member := calledNames_composite composite _ name called
        exact ⟨name, member, named_lookedUp member⟩

/-- A name that stands for neither the plain text modifier nor a limit on characters can be called
without parameters: nothing is looked up. -/
theorem finishes_of_ne {name : String}
    (notPlainText : registry.find? name ≠ some plainText)
    (notMaxChars : registry.find? name ≠ some maxChars) : registry.Finishes ⟨name, []⟩ := by
  refine .intro fun inner nested => ?_
  suffices nothing : registry.nestedCalls ⟨name, []⟩ = [] by
    rw [nothing] at nested
    cases nested
  cases known : registry.find? name with
  | none => simp [nestedCalls, known]
  | some modifier =>
      rw [nestedCalls_of_find? known]
      rcases all _ _ known with selfContained | composite
      · rw [selfContained, List.map_nil]
      · simp only [composites, List.mem_cons, List.not_mem_nil, or_false] at composite
        rcases composite with rfl | rfl | rfl | rfl
        · exact absurd known notPlainText
        · rw [maxWords, calledNames_limitUnits_nil, List.map_nil]
        · rw [maxSentences, calledNames_limitUnits_nil, List.map_nil]
        · exact absurd known notMaxChars

theorem finishes_of_untangled (untangled : registry.Untangled) (call : ModifierCall) :
    registry.Finishes call := by
  -- From a step at most two more levels follow: a limit on characters, then a text modifier.
  have step {name : String} (member : name ∈ plainTextSteps) : registry.Finishes ⟨name, []⟩ := by
    by_cases limit : registry.find? name = some maxChars
    · -- The step strips code first, which then is not the plain text modifier.
      refine .intro fun inner nested => ?_
      rw [nestedCalls_of_find? limit, calledNames_maxChars, List.map_singleton,
        List.mem_singleton, named_lookedUp List.mem_cons_self] at nested
      subst nested
      refine finishes_of_ne all (fun isPlainText => ?_) untangled.text_ne_maxChars
      exact untangled.step_ne_maxChars isPlainText name member limit
    · exact finishes_of_ne all (untangled.step_ne_plainText name member) limit
  have text : registry.Finishes ⟨plainTextName, []⟩ := by
    by_cases isPlainText : registry.find? plainTextName = some plainText
    · refine .intro fun inner nested => ?_
      rw [nestedCalls_of_find? isPlainText, calledNames_plainText] at nested
      obtain ⟨name, member, rfl⟩ := List.mem_map.mp nested
      rw [named_lookedUp (List.mem_cons_of_mem _ member)]
      exact step member
    · exact finishes_of_ne all isPlainText untangled.text_ne_maxChars
  refine .intro fun inner nested => ?_
  obtain ⟨name, member, rfl⟩ := nestedCalls_lookedUp all call inner nested
  rcases List.mem_cons.mp member with rfl | isStep
  · exact text
  · exact step isStep

end

theorem mem_nestedCalls_plainText {name step : String}
    (isPlainText : registry.find? name = some plainText) (member : step ∈ plainTextSteps) :
    ⟨step, []⟩ ∈ registry.nestedCalls ⟨name, []⟩ := by
  rw [nestedCalls_of_find? isPlainText, calledNames_plainText]
  exact List.mem_map.mpr ⟨step, member, named_lookedUp (List.mem_cons_of_mem _ member)⟩

theorem mem_nestedCalls_maxChars {name : String}
    (limit : registry.find? name = some maxChars) :
    ⟨plainTextName, []⟩ ∈ registry.nestedCalls ⟨name, []⟩ := by
  rw [nestedCalls_of_find? limit, calledNames_maxChars, List.map_singleton, List.mem_singleton,
    named_lookedUp List.mem_cons_self]

theorem untangled_of_finishes (finishes : ∀ call, registry.Finishes call) :
    registry.Untangled where
  step_ne_plainText name member isPlainText := by
    refine not_finishes (· = ⟨name, []⟩) ?_ rfl (finishes ⟨name, []⟩)
    rintro _ rfl
    exact ⟨_, mem_nestedCalls_plainText isPlainText member, rfl⟩
  text_ne_maxChars limit := by
    refine not_finishes (· = ⟨plainTextName, []⟩) ?_ rfl (finishes ⟨plainTextName, []⟩)
    rintro _ rfl
    exact ⟨_, mem_nestedCalls_maxChars limit, rfl⟩
  step_ne_maxChars isPlainText name member limit := by
    refine not_finishes (fun call => call = ⟨name, []⟩ ∨ call = ⟨plainTextName, []⟩) ?_
      (.inl rfl) (finishes ⟨name, []⟩)
    rintro _ (rfl | rfl)
    · exact ⟨_, mem_nestedCalls_maxChars limit, .inr rfl⟩
    · exact ⟨_, mem_nestedCalls_plainText isPlainText member, .inl rfl⟩

theorem untangled_of_quiet
    (quiet : ∀ name ∈ plainTextSteps, ∀ modifier, registry.find? name = some modifier →
      modifier.calledNames [] = [])
    (text : registry.find? plainTextName ≠ some maxChars) : registry.Untangled where
  step_ne_plainText name member known := by
    have nothing := quiet name member _ known
    rw [calledNames_plainText] at nothing
    cases nothing
  text_ne_maxChars := text
  step_ne_maxChars _ name member known := by
    have nothing := quiet name member _ known
    rw [calledNames_maxChars] at nothing
    cases nothing

theorem quiet_builtin [Regex.Limits] {name : String} (member : name ∈ plainTextSteps)
    {modifier : Modifier}
    (known : builtin.find? name = some modifier) : modifier.calledNames [] = [] := by
  rw [find?_builtin] at known
  simp only [plainTextSteps, List.mem_cons, List.not_mem_nil, or_false] at member
  rcases member with rfl | rfl | rfl | rfl <;> cases known <;> rfl

/-- Of the registries that aliases and self-contained modifiers can make out of the built-in one,
just those resolve every call in which no name leads back to itself. -/
theorem always_resolves_iff_untangled [Regex.Limits] {changes : List Change}
    (selfContained : ∀ name modifier, .register name modifier ∈ changes → modifier.SelfContained) :
    (∀ call, (builtin.after changes).Finishes call ∧
        ∃ transform, (builtin.after changes).resolve? call = some transform) ↔
      (builtin.after changes).Untangled := by
  constructor
  · intro always
    exact untangled_of_finishes fun call => (always call).1
  · intro untangled call
    have finishes := finishes_of_untangled (all_after selfContained) untangled call
    exact ⟨finishes, Option.isSome_iff_exists.mp (resolve?_isSome_iff.mpr finishes)⟩

theorem always_resolves_after_shout :
    ∃ transform, (builtin.after [.register "shout" (.text (·.map Char.toUpper)),
        .addName "strip-cdata" "shout"]).resolve? ⟨plainTextName, []⟩ = some transform := by
  have otherStep : ∀ name ∈ plainTextSteps, normalizeName "shout" ≠ name := by decide
  refine ((always_resolves_iff_untangled ?_).mpr (untangled_of_quiet ?_ ?_) _).2
  · intro name modifier member
    simp only [List.mem_cons, List.not_mem_nil, or_false, reduceCtorEq, Change.register.injEq]
      at member
    rw [member.2]
    exact selfContained_text _
  · intro name member modifier known
    rw [after_cons, after_cons, after_nil, find?_perform_addName, Change.perform] at known
    split at known
    · rw [find?_register, if_pos (by decide), Option.some_or] at known
      cases known
      exact selfContained_text _ []
    · rw [find?_register, if_neg (otherStep name member)] at known
      exact quiet_builtin member known
  · rw [after_cons, after_cons, after_nil, find?_perform_addName,
      if_neg (by decide), Change.perform, find?_register, if_neg (by decide), find?_builtin]
    intro same
    exact absurd (congrArg (Option.map (calledNames · [])) same) (by decide)

/-- A step of the plain text modifier that is the plain text modifier itself. -/
theorem text_never_resolves :
    (builtin.after [.addName "stripcdata" "text"]).resolve? ⟨"text", []⟩ = none ∧
      ¬ (builtin.after [.addName "stripcdata" "text"]).Finishes ⟨"text", []⟩ := by
  have find?_after (wanted : String) : (builtin.after [.addName "stripcdata" "text"]).find? wanted =
      if normalizeName "stripcdata" = wanted then
        (builtin.find? (normalizeName "text")).or (builtin.find? wanted)
      else builtin.find? wanted := by
    rw [after_cons, after_nil, find?_perform_addName]
  have text : (builtin.after [.addName "stripcdata" "text"]).find? "text" = some plainText := by
    rw [find?_after, if_neg (by decide), find?_builtin]
    rfl
  have step : (builtin.after [.addName "stripcdata" "text"]).find? "stripcdata" =
      some plainText := by
    rw [find?_after, if_pos (by decide), find?_builtin]
    rfl
  have never : ¬ (builtin.after [.addName "stripcdata" "text"]).Finishes ⟨"text", []⟩ := by
    refine not_finishes (fun call => call = ⟨"text", []⟩ ∨ call = ⟨"stripcdata", []⟩) ?_ (.inl rfl)
    intro call circling
    refine ⟨⟨"stripcdata", []⟩, ?_, .inr rfl⟩
    rcases circling with rfl | rfl
    · exact mem_nestedCalls_plainText text List.mem_cons_self
    · exact mem_nestedCalls_plainText step List.mem_cons_self
  exact ⟨Option.not_isSome_iff_eq_none.mp (mt resolve?_isSome_iff.mp never), never⟩

end Registry

end Stencil
