import Stencil.Proofs.Modifier.Finishing
import Stencil.Proofs.Template.Chains

namespace Stencil

/-! What a resolved call does.

A registry resolves a call to the steps of its modifier, one after the other, and a step that calls
another modifier to what the registry resolves that call to.
-/

namespace Modifier

/-- All that the modifier does by itself with these parameters is of the kind. -/
def DoesOnly (kind : Transform → Prop) (modifier : Modifier) (params : List String) : Prop :=
  ∀ steps, modifier.steps? params = some steps →
    ∀ transform, .apply transform ∈ steps → kind transform

variable {kind : Transform → Prop} {params : List String}

theorem doesOnly_ofTransform {transform? : List String → Option Transform}
    (each : ∀ transform, transform? params = some transform → kind transform) :
    (ofTransform transform?).DoesOnly kind params := by
  intro steps known transform member
  obtain ⟨single, given, rfl⟩ := Option.map_eq_some_iff.mp known
  rw [List.mem_singleton, Step.apply.injEq] at member
  subst member
  exact each transform given

theorem doesOnly_direct {function? : List String → Option (Value → Value)}
    (each : ∀ function, function? params = some function → kind (.total function)) :
    (direct function?).DoesOnly kind params := by
  refine doesOnly_ofTransform fun transform given => ?_
  obtain ⟨function, made, rfl⟩ := Option.map_eq_some_iff.mp given
  exact each function made

/-- The plain text modifier only calls others. -/
theorem doesOnly_plainText : plainText.DoesOnly kind params := by
  intro steps known transform member
  cases known
  obtain ⟨name, _, same⟩ := List.mem_map.mp member
  cases same

/-- What limits length strips code by a call and then cuts. -/
theorem eq_of_mem_stripFirst {flag : Option String} {cut transform : Transform}
    (member : .apply transform ∈ stripFirst flag ++ [.apply cut]) : transform = cut := by
  rcases List.mem_append.mp member with strips | cuts
  · rw [stripFirst] at strips
    split at strips <;> simp at strips
  · rwa [List.mem_singleton, Step.apply.injEq] at cuts

theorem doesOnly_limitUnits {next : Text.TakeUnit}
    (cut : ∀ count, kind (.total (Value.onText (Text.truncateAfter next count)))) :
    (limitUnits next).DoesOnly kind params := by
  intro steps known transform member
  obtain ⟨count, _, made⟩ := Option.bind_eq_some_iff.mp known
  cases made
  rw [eq_of_mem_stripFirst member]
  exact cut count

theorem doesOnly_maxChars (cut : ∀ count, kind (.total (Value.onText (List.take count)))) :
    maxChars.DoesOnly kind params := by
  intro steps known transform member
  cases known
  rw [eq_of_mem_stripFirst member]
  exact cut _

end Modifier

namespace Registry

variable {registry : Registry} {call : ModifierCall}

def stepTransform (registry : Registry) : Step → Transform
  | .apply transform => transform
  | .call name => registry.resolve (.named name [])

theorem stepTransform_call {name : String} (member : name ∈ Modifier.lookedUp) :
    registry.stepTransform (.call name) = registry.resolve ⟨name, []⟩ := by
  rw [stepTransform, named_lookedUp member]

/-- A call that can be resolved does the steps of its modifier one after the other. -/
theorem resolve_of_steps {modifier : Modifier} {steps : List Step}
    (finishes : registry.Finishes call) (known : registry.find? call.name = some modifier)
    (taken : modifier.steps? call.params = some steps) :
    registry.resolve call = Transform.sequence (steps.map registry.stepTransform) := by
  obtain ⟨transform, resolved⟩ := Option.isSome_iff_exists.mp (resolve?_isSome_iff.mpr finishes)
  rw [resolve, resolved, Option.getD_some]
  rw [resolve?, expand] at resolved
  simp only [known, taken, Option.map_eq_some_iff, mapM_eq_some_iff] at resolved
  obtain ⟨transforms, each, rfl⟩ := resolved
  have eachStep : List.Forall₂ (fun step made => registry.stepTransform step = made)
      steps transforms := by
    refine each.imp fun step made resolved => ?_
    cases step with
    | apply transform => exact Option.some.inj resolved
    | call name =>
        have further := expand_stable (Nat.le_succ _) resolved
        rw [stepTransform, resolve, resolve?, further, Option.getD_some]
  have same : steps.map registry.stepTransform = transforms := by
    rw [← List.forall₂_eq_eq_eq]
    exact List.forall₂_map_left_iff.mpr eachStep
  rw [same]

/-- A kind of transforms that sequences keep is the kind of a call, if whatever the modifiers do by
themselves that the call leads to is of this kind. -/
theorem resolve_of_kind (kind : Transform → Prop) (reached : ModifierCall → Prop)
    (sequence : ∀ transforms : List Transform, (∀ transform ∈ transforms, kind transform) →
      kind (Transform.sequence transforms))
    (own : ∀ call, reached call → ∀ modifier, registry.find? call.name = some modifier →
      modifier.DoesOnly kind call.params)
    (nested : ∀ call, reached call → ∀ inner ∈ registry.nestedCalls call, reached inner)
    (finishes : registry.Finishes call) (isReached : reached call) :
    kind (registry.resolve call) := by
  have nothing : kind some := sequence [] fun _ none => absurd none List.not_mem_nil
  induction finishes with
  | @intro call innerFinishes innerIH =>
      cases known : registry.find? call.name with
      | none => rwa [resolve_of_ignores (.inl known)]
      | some modifier =>
          cases taken : modifier.steps? call.params with
          | none => rwa [resolve_of_ignores (.inr ⟨modifier, known, taken⟩)]
          | some steps =>
              rw [resolve_of_steps (.intro innerFinishes) known taken]
              refine sequence _ fun transform member => ?_
              obtain ⟨step, inSteps, rfl⟩ := List.mem_map.mp member
              cases step with
              | apply transform => exact own call isReached modifier known steps taken _ inSteps
              | call name =>
                  have called : .named name [] ∈ registry.nestedCalls call := by
                    rw [nestedCalls_of_find? known, Modifier.calledNames, taken, Option.getD_some]
                    exact List.mem_map_of_mem (List.mem_filterMap.mpr ⟨_, inSteps, rfl⟩)
                  exact innerIH _ called (nested call isReached _ called)

end Registry

end Stencil
