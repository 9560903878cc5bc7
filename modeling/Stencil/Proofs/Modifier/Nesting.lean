import Mathlib.Data.Finset.Card
import Mathlib.Order.Monotone.Basic
import Stencil.Modifier.Registry
import Stencil.Proofs.Data.Outcomes

namespace Stencil

/-! Calls within calls.

Resolving a call resolves the calls among the modifier's steps.  `Registry.Finishes` says that this
comes to an end.  A registry counts the depth down instead and gives up after two levels more than
it has names.  That is enough: with every level either another name is settled or none ever will be.
-/

def Step.called? : Step → Option String
  | .apply _ => none
  | .call name => some name

/-- The names that a modifier looks up for its parameters. -/
def Modifier.calledNames (modifier : Modifier) (params : List String) : List String :=
  ((modifier.steps? params).getD []).filterMap Step.called?

namespace Registry

variable {registry : Registry} {call : ModifierCall}

/-- The calls that are resolved when a call is resolved. -/
def nestedCalls (registry : Registry) (call : ModifierCall) : List ModifierCall :=
  match registry.find? call.name with
  | none => []
  | some modifier => (modifier.calledNames call.params).map (.named · [])

/-- Nested calls have no parameters. -/
theorem params_of_nested {inner : ModifierCall} (nested : inner ∈ registry.nestedCalls call) :
    inner.params = [] := by
  rw [nestedCalls] at nested
  split at nested
  · cases nested
  · obtain ⟨name, _, rfl⟩ := List.mem_map.mp nested
    rfl

/-- Resolving the call comes to an end, since resolving each of its nested calls does. -/
inductive Finishes (registry : Registry) : ModifierCall → Prop where
  | intro {call : ModifierCall} :
      (∀ inner ∈ registry.nestedCalls call, Finishes registry inner) → Finishes registry call

theorem expand_succ (registry : Registry) (depth : Nat) (call : ModifierCall) :
    (registry.expand (depth + 1) call).isSome ↔
      ∀ inner ∈ registry.nestedCalls call, (registry.expand depth inner).isSome := by
  rw [expand, nestedCalls]
  cases registry.find? call.name with
  | none => simp
  | some modifier =>
      simp only [Modifier.calledNames]
      cases modifier.steps? call.params with
      | none => simp
      | some steps =>
          simp only [Option.isSome_map, isSome_mapM_iff, Option.getD_some, List.forall_mem_map,
            List.mem_filterMap, forall_exists_index, and_imp]
          constructor
          · intro all name step member looked
            cases step with
            | apply transform => cases looked
            | call name =>
                cases looked
                exact all _ member
          · intro all step member
            cases step with
            | apply transform => rfl
            | call name => exact all name _ member rfl

/-- Once there is enough depth, more of it changes nothing. -/
theorem expand_stable {depth more : Nat} {transform : Transform} (deeper : depth ≤ more)
    (resolved : registry.expand depth call = some transform) :
    registry.expand more call = some transform := by
  induction depth generalizing more call transform with
  | zero => cases resolved
  | succ depth depthIH =>
      obtain ⟨more, rfl⟩ : ∃ left, more = left + 1 := ⟨more - 1, by omega⟩
      rw [expand] at resolved ⊢
      cases known : registry.find? call.name with
      | none => simpa only [known] using resolved
      | some modifier =>
          cases taken : modifier.steps? call.params with
          | none => simpa only [known, taken] using resolved
          | some steps =>
              simp only [known, taken, Option.map_eq_some_iff, mapM_eq_some_iff] at resolved ⊢
              obtain ⟨transforms, each, rfl⟩ := resolved
              refine ⟨transforms, each.imp fun step made resolved => ?_, rfl⟩
              cases step with
              | apply transform => exact resolved
              | call name => exact depthIH (by omega) resolved

theorem expand_mono {depth more : Nat} (deeper : depth ≤ more)
    (resolved : (registry.expand depth call).isSome) : (registry.expand more call).isSome := by
  obtain ⟨transform, made⟩ := Option.isSome_iff_exists.mp resolved
  exact Option.isSome_iff_exists.mpr ⟨transform, expand_stable deeper made⟩

theorem exists_depth {calls : List ModifierCall}
    (each : ∀ inner ∈ calls, ∃ depth, (registry.expand depth inner).isSome) :
    ∃ depth, ∀ inner ∈ calls, (registry.expand depth inner).isSome := by
  induction calls with
  | nil => exact ⟨0, by simp⟩
  | cons first rest restIH =>
      obtain ⟨⟨firstDepth, firstResolved⟩, restEach⟩ := List.forall_mem_cons.mp each
      obtain ⟨restDepth, restResolved⟩ := restIH restEach
      refine ⟨max firstDepth restDepth, List.forall_mem_cons.mpr ⟨?_, fun inner member => ?_⟩⟩
      · exact expand_mono (Nat.le_max_left ..) firstResolved
      · exact expand_mono (Nat.le_max_right ..) (restResolved inner member)

theorem finishes_iff_exists_depth :
    registry.Finishes call ↔ ∃ depth, (registry.expand depth call).isSome := by
  constructor
  · intro finishes
    induction finishes with
    | intro _ innerIH =>
        obtain ⟨depth, resolved⟩ := exists_depth innerIH
        exact ⟨depth + 1, (expand_succ ..).mpr resolved⟩
  · intro enough
    obtain ⟨depth, resolved⟩ := enough
    induction depth generalizing call with
    | zero => cases resolved
    | succ depth depthIH =>
        exact .intro fun inner nested => depthIH ((expand_succ ..).mp resolved inner nested)

theorem expand_unknown {name : String} (unknown : name ∉ registry.names) (depth : Nat)
    (params : List String) : (registry.expand (depth + 1) ⟨name, params⟩).isSome := by
  cases found : registry.find? name with
  | none => simp [expand, found]
  | some modifier => exact absurd (Dictionary.mem_keys_of_get? found) unknown

/-- The names whose calls without parameters a further `depth` levels of nesting are enough for. -/
def settled (registry : Registry) (depth : Nat) : Finset String :=
  registry.names.toFinset.filter fun name => (registry.expand (depth + 1) ⟨name, []⟩).isSome

theorem settled_mono {depth more : Nat} (deeper : depth ≤ more) :
    registry.settled depth ⊆ registry.settled more := by
  intro name member
  rw [settled, Finset.mem_filter] at member ⊢
  exact ⟨member.1, expand_mono (by omega) member.2⟩

theorem card_settled_le (registry : Registry) (depth : Nat) :
    (registry.settled depth).card ≤ registry.size := by
  refine (Finset.card_filter_le ..).trans (registry.names.toFinset_card_le.trans ?_)
  rw [names, Dictionary.keys, List.length_map]
  exact Nat.le_refl _

/-- Which calls are resolved one level further up depends only on the names that are settled. -/
theorem expand_of_settled {depth more : Nat}
    (same : registry.settled depth = registry.settled more) (call : ModifierCall) :
    (registry.expand (depth + 2) call).isSome ↔ (registry.expand (more + 2) call).isSome := by
  rw [expand_succ, expand_succ]
  refine forall₂_congr fun inner nested => ?_
  obtain ⟨name, params⟩ := inner
  obtain rfl : params = [] := params_of_nested nested
  by_cases known : name ∈ registry.names
  · have both := congrArg (name ∈ ·) same
    simpa [settled, known] using both
  · simp [expand_unknown known]

/-- As many levels as there are names settle all the names that are ever settled. -/
theorem settled_eq {depth : Nat} (enough : registry.size ≤ depth) :
    registry.settled depth = registry.settled registry.size := by
  have equal_of_card {level : Nat}
      (same : (registry.settled level).card = (registry.settled (level + 1)).card) :
      registry.settled level = registry.settled (level + 1) :=
    Finset.eq_of_subset_of_card_le (settled_mono (Nat.le_succ _)) same.ge
  have stable (level : Nat)
      (same : (registry.settled level).card = (registry.settled (level + 1)).card) :
      (registry.settled (level + 1)).card = (registry.settled (level + 2)).card := by
    refine congrArg Finset.card (Finset.filter_congr fun name _ => ?_)
    exact expand_of_settled (equal_of_card same) ⟨name, []⟩
  -- The number of settled names grows with every level until it stands still for good.
  have cards := Nat.stabilises_of_monotone
    (fun _ _ deeper => Finset.card_le_card (@settled_mono registry _ _ deeper))
    registry.card_settled_le stable enough
  exact (Finset.eq_of_subset_of_card_le (settled_mono enough) cards.le).symm

/-- A registry resolves every call whose resolution comes to an end. -/
theorem resolve?_isSome_iff : (registry.resolve? call).isSome ↔ registry.Finishes call := by
  rw [finishes_iff_exists_depth, resolve?]
  constructor
  · intro resolved
    exact ⟨_, resolved⟩
  · intro someDepth
    obtain ⟨depth, resolved⟩ := someDepth
    have enough : registry.size ≤ registry.size + depth := by omega
    exact (expand_of_settled (settled_eq enough) call).mp
      (expand_mono (by omega) resolved)

/-- Calls that lead to calls of the same kind are never resolved. -/
theorem not_finishes (kind : ModifierCall → Prop)
    (leads : ∀ call, kind call → ∃ inner ∈ registry.nestedCalls call, kind inner)
    (isKind : kind call) : ¬ registry.Finishes call := by
  intro finishes
  induction finishes with
  | intro _ innerIH =>
      obtain ⟨inner, nested, innerKind⟩ := leads _ isKind
      exact innerIH inner nested innerKind

end Registry

end Stencil
