import Stencil.Proofs.Modifier.Truncation
import Stencil.Proofs.Template.Chains

namespace Stencil.Registry

open Modifier

/-! Composite modifiers and the chains that they stand for.

A composite finds the modifiers that it is made of in the registry that resolves it.  It does what a
chain does that names them one after the other, whatever the registry knows under these names.
-/

variable {registry : Registry}

/-- The call can be resolved, and does to every value what the chain of the calls does. -/
def Expands (registry : Registry) (call : ModifierCall) (calls : List ModifierCall) : Prop :=
  ∃ transform, registry.resolve? call = some transform ∧
    ∀ value, transform value = (Chain.ofCalls registry calls).apply value

/-- The composites are known under their own names.  Any other name may stand for anything. -/
structure KeepsComposites (registry : Registry) : Prop where
  text : registry.find? "text" = some plainText
  words : registry.find? "maxwords" = some maxWords
  sentences : registry.find? "maxsentences" = some maxSentences
  chars : registry.find? "maxchars" = some maxChars

theorem apply_ofCalls_map (registry : Registry) (calls : List ModifierCall) :
    (Chain.ofCalls registry calls).apply = Transform.sequence (calls.map registry.resolve) := by
  rw [Chain.apply, Chain.ofCalls, List.map_map]
  rfl

theorem sequence_singleton (transform : Transform) :
    Transform.sequence [transform] = transform := by
  funext value
  exact Option.bind_fun_some _

theorem expands_of_resolve {call : ModifierCall} {calls : List ModifierCall}
    (finishes : registry.Finishes call)
    (same : registry.resolve call = Transform.sequence (calls.map registry.resolve)) :
    registry.Expands call calls := by
  obtain ⟨transform, resolved⟩ := Option.isSome_iff_exists.mp (resolve?_isSome_iff.mpr finishes)
  refine ⟨transform, resolved, fun value => ?_⟩
  rw [apply_ofCalls_map, ← same, resolve_of_resolve? resolved]

theorem finishes_plainText {name : String} (known : registry.find? name = some plainText)
    (finishes : registry.Finishes ⟨name, []⟩) (params : List String) :
    registry.Finishes ⟨name, params⟩ := by
  cases finishes with
  | intro each =>
      refine .intro fun inner nested => each inner ?_
      rwa [nestedCalls_of_find? known] at nested ⊢

theorem expands_plainText {name : String} (known : registry.find? name = some plainText)
    (finishes : registry.Finishes ⟨name, []⟩) (params : List String) :
    registry.Expands ⟨name, params⟩ (plainTextSteps.map (⟨·, []⟩)) := by
  have comesToEnd := finishes_plainText known finishes params
  refine expands_of_resolve comesToEnd ?_
  rw [resolve_of_steps comesToEnd known rfl, List.map_map, List.map_map]
  refine congrArg Transform.sequence (List.map_congr_left fun step member => ?_)
  exact stepTransform_call (List.mem_cons_of_mem _ member)

section Limit

variable {name count : String} {params : List String} {modifier : Modifier} {cut : Transform}

theorem stripFirst_of_flag {flag : Option String}
    (strips : (flag.map fun flag => Unicode.trim flag.toList) ≠ some ['0']) :
    stripFirst flag = [.call plainTextName] := by
  rw [stripFirst, if_neg strips]

theorem stripFirst_zero : stripFirst (some "0") = [] :=
  if_pos rfl

theorem finishes_of_strip (known : registry.find? name = some modifier)
    (steps : modifier.steps? params = some (stripFirst params[1]? ++ [.apply cut]))
    (text : registry.Finishes ⟨plainTextName, []⟩) : registry.Finishes ⟨name, params⟩ := by
  refine .intro fun inner nested => ?_
  rw [nestedCalls_of_find? known] at nested
  obtain ⟨called, looked, rfl⟩ := List.mem_map.mp nested
  have isText : called = plainTextName := by
    rw [calledNames, steps] at looked
    exact calledNames_stripFirst params[1]? cut called looked
  rw [isText, named_lookedUp List.mem_cons_self]
  exact text

theorem resolve_bare (known : registry.find? name = some modifier)
    (bare : modifier.steps? [count, "0"] = some (stripFirst (some "0") ++ [.apply cut])) :
    registry.resolve ⟨name, [count, "0"]⟩ = cut := by
  rw [stripFirst_zero, List.nil_append] at bare
  rw [resolve_of_resolve? (resolve?_of_single known bare), sequence_singleton]

/-- A modifier that strips code and then cuts is the chain of the two. -/
theorem expands_limit (known : registry.find? name = some modifier)
    (steps : modifier.steps? params = some (stripFirst params[1]? ++ [.apply cut]))
    (bare : modifier.steps? [count, "0"] = some (stripFirst (some "0") ++ [.apply cut]))
    (strips : (params[1]?.map fun flag => Unicode.trim flag.toList) ≠ some ['0'])
    (text : registry.Finishes ⟨plainTextName, []⟩) :
    registry.Expands ⟨name, params⟩ [⟨plainTextName, []⟩, ⟨name, [count, "0"]⟩] := by
  have finishes := finishes_of_strip known steps text
  refine expands_of_resolve finishes ?_
  rw [resolve_of_steps finishes known steps, stripFirst_of_flag strips, List.map_cons,
    List.map_singleton, resolve_bare known bare, List.singleton_append, List.map_cons,
    List.map_singleton, stepTransform_call List.mem_cons_self]
  rfl

theorem positiveCount?_headD (params : List String) :
    positiveCount? (some (params.headD "")) = positiveCount? params[0]? := by
  cases params with
  | nil => decide +kernel
  | cons count rest => rfl

theorem expands_maxChars (known : registry.find? name = some maxChars)
    (strips : (params[1]?.map fun flag => Unicode.trim flag.toList) ≠ some ['0'])
    (text : registry.Finishes ⟨plainTextName, []⟩) :
    registry.Expands ⟨name, params⟩ [⟨plainTextName, []⟩, ⟨name, [params.headD "", "0"]⟩] := by
  refine expands_limit known rfl ?_ strips text
  have same : positiveCount? [params.headD "", "0"][0]? = positiveCount? params[0]? :=
    positiveCount?_headD params
  simp only [maxChars, same]
  rfl

theorem expands_limitUnits {next : Text.TakeUnit}
    (known : registry.find? name = some (limitUnits next))
    (given : (positiveCount? params[0]?).isSome)
    (strips : (params[1]?.map fun flag => Unicode.trim flag.toList) ≠ some ['0'])
    (text : registry.Finishes ⟨plainTextName, []⟩) :
    registry.Expands ⟨name, params⟩ [⟨plainTextName, []⟩, ⟨name, [params.headD "", "0"]⟩] := by
  obtain ⟨limit, read⟩ := Option.isSome_iff_exists.mp given
  have same : positiveCount? [params.headD "", "0"][0]? = some limit :=
    (positiveCount?_headD params).trans read
  have steps : (limitUnits next).steps? params = some (stripFirst params[1]? ++
      [.apply (.total (Value.onText (Text.truncateAfter next limit)))]) := by
    simp only [limitUnits, read]
    rfl
  refine expands_limit known steps ?_ strips text
  simp only [limitUnits, same]
  rfl

theorem ignores_limitUnits {next : Text.TakeUnit}
    (known : registry.find? name = some (limitUnits next))
    (unusable : positiveCount? params[0]? = none) : registry.Ignores ⟨name, params⟩ := by
  refine .inr ⟨_, known, ?_⟩
  simp only [limitUnits, unusable]
  rfl

end Limit

/-- The plain text modifier is the chain of its steps and a limit on length is the plain text
modifier with the bare limit behind it, all of them as the registry knows them. -/
theorem composites_expand (keeps : registry.KeepsComposites)
    (finishes : registry.Finishes ⟨"text", []⟩) (params : List String) :
    registry.Expands ⟨"text", params⟩
        [⟨"stripcdata", []⟩, ⟨"stripscript", []⟩, ⟨"stripstyle", []⟩, ⟨"stripcomments", []⟩] ∧
      (∀ name, registry.find? name = none → ∀ value,
        registry.resolve ⟨name, []⟩ value = some value) ∧
      ((params[1]?.map fun flag => Unicode.trim flag.toList) ≠ some ['0'] →
        registry.Expands ⟨"maxchars", params⟩
            [⟨"text", []⟩, ⟨"maxchars", [params.headD "", "0"]⟩] ∧
          ((positiveCount? params[0]?).isSome → ∀ name ∈ ["maxwords", "maxsentences"],
            registry.Expands ⟨name, params⟩ [⟨"text", []⟩, ⟨name, [params.headD "", "0"]⟩])) ∧
      (positiveCount? params[0]? = none → ∀ name ∈ ["maxwords", "maxsentences"], ∀ value,
        registry.resolve ⟨name, params⟩ value = some value) := by
  have units : ∀ name ∈ ["maxwords", "maxsentences"],
      ∃ next, registry.find? name = some (limitUnits next) := by
    intro name member
    simp only [List.mem_cons, List.not_mem_nil, or_false] at member
    rcases member with rfl | rfl
    · exact ⟨_, keeps.words⟩
    · exact ⟨_, keeps.sentences⟩
  refine ⟨?_, ?_, ?_, ?_⟩
  · exact expands_plainText keeps.text finishes params
  · intro name missing value
    rw [resolve_of_ignores (.inl missing)]
  · intro strips
    refine ⟨expands_maxChars keeps.chars strips finishes, fun given name member => ?_⟩
    obtain ⟨next, known⟩ := units name member
    exact expands_limitUnits known given strips finishes
  · intro unusable name member value
    obtain ⟨next, known⟩ := units name member
    rw [resolve_of_ignores (ignores_limitUnits known unusable)]

/-- One step of the plain text modifier strips marks and the others are not known. -/
theorem composites_expand_unmarked :
    let registry := ((((empty.register "text" plainText).register "maxwords" maxWords).register
      "maxsentences" maxSentences).register "maxchars" maxChars).register "stripcomments"
        (Modifier.text (·.filter (· ≠ '#')))
    registry.KeepsComposites ∧ registry.Finishes ⟨"text", []⟩ ∧
      ∃ transform, registry.resolve? ⟨"maxwords", ["1"]⟩ = some transform ∧
        transform (.string "a#b<!-- c") = some (.string "ab") := by
  intro registry
  have keeps : registry.KeepsComposites := ⟨rfl, rfl, rfl, rfl⟩
  have finishes : registry.Finishes ⟨"text", []⟩ := resolve?_isSome_iff.mp rfl
  refine ⟨keeps, finishes, ?_⟩
  obtain ⟨_, _, limits, _⟩ := composites_expand keeps finishes ["1"]
  have one : positiveCount? (some "1") = some 1 := by decide +kernel
  obtain ⟨transform, resolved, same⟩ :=
    (limits (by decide)).2 (Option.isSome_of_eq_some one) "maxwords" (by decide)
  refine ⟨transform, resolved, ?_⟩
  have cuts : registry.resolve ⟨"maxwords", ["1", "0"]⟩ =
      .total (Value.onText (Text.truncateAfter Text.takeWord 1)) := by
    refine resolve_bare keeps.words ?_
    simp only [maxWords, limitUnits, List.getElem?_cons_zero, one]
    rfl
  have stripped : registry.resolve ⟨"text", []⟩ (.string "a#b<!-- c") =
      some (.string "ab<!-- c") := rfl
  rw [same, apply_ofCalls_map, List.map_cons, Transform.sequence_cons, stripped, Option.bind_some,
    List.map_singleton, sequence_singleton, List.headD_cons, cuts]
  rfl

end Stencil.Registry
