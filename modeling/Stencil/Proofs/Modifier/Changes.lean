import Stencil.Modifier.Catalogue

namespace Stencil

/-! Registries in use.

A registry is changed by registering modifiers and by giving known modifiers other names.  What all
modifiers of a registry have in common stays so if the registered ones have it too.
-/

/-- The lowercase letters of ASCII are letters and have no other lowercase form. -/
theorem ascii_lower {c : Char} (lower : c.isLower = true) :
    Unicode.isAlphabetic c = true ∧ Unicode.lower c = [c] := by
  have all : ∀ n < 26, Unicode.isAlphabetic (Char.ofNat (97 + n)) = true ∧
      Unicode.lower (Char.ofNat (97 + n)) = [Char.ofNat (97 + n)] := by
    decide +kernel
  have bounds := Bool.and_eq_true_iff.mp lower
  have low : 97 ≤ c.toNat := of_decide_eq_true bounds.1
  have high : c.toNat ≤ 122 := of_decide_eq_true bounds.2
  have found := all (c.toNat - 97) (by omega)
  rwa [Nat.add_sub_cancel' low, Char.ofNat_toNat] at found

theorem normalizeName_of_ascii_lower {name : String}
    (lower : name.toList.all Char.isLower = true) : normalizeName name = name := by
  suffices kept : (name.toList.filter Unicode.isAlphabetic).flatMap Unicode.lower = name.toList by
    rw [normalizeName, kept, String.ofList_toList]
  generalize name.toList = text at lower ⊢
  induction text with
  | nil => rfl
  | cons c rest restIH =>
      rw [List.all_cons, Bool.and_eq_true] at lower
      obtain ⟨here, later⟩ := lower
      rw [List.filter_cons_of_pos (ascii_lower here).1, List.flatMap_cons, (ascii_lower here).2,
        restIH later]
      rfl

namespace Registry

variable {registry : Registry} {good : Modifier → Prop}

theorem find?_register (registry : Registry) (name wanted : String) (modifier : Modifier) :
    (registry.register name modifier).find? wanted =
      if normalizeName name = wanted then some modifier else registry.find? wanted :=
  Dictionary.get?_insert ..

theorem find?_registerAll (registry : Registry) (names : List String) (wanted : String)
    (modifier : Modifier) :
    (registry.registerAll names modifier).find? wanted =
      if wanted ∈ names.map normalizeName then some modifier else registry.find? wanted := by
  induction names generalizing registry with
  | nil => rfl
  | cons name rest restIH =>
      have step : registry.registerAll (name :: rest) modifier =
          (registry.register name modifier).registerAll rest modifier := rfl
      rw [step, restIH, find?_register, List.map_cons]
      by_cases later : wanted ∈ rest.map normalizeName
      · simp [later]
      · by_cases here : normalizeName name = wanted
        · simp [here]
        · simp [later, here, Ne.symm here]

theorem catalogue_normalized [Regex.Limits] {entry : List String × Modifier}
    (member : entry ∈ Modifier.catalogue) : entry.1.map normalizeName = entry.1 := by
  have listed : entry.1 ∈ Modifier.catalogue.map (·.1) := List.mem_map_of_mem member
  -- The names are the same whatever the limits are.
  have sameNames : Modifier.catalogue.map (·.1) = (@Modifier.catalogue .none).map (·.1) := rfl
  have lower : (((@Modifier.catalogue .none).map (·.1)).all fun names => names.all fun name =>
      name.toList.all Char.isLower) = true := by
    decide +kernel
  have same : entry.1.map normalizeName = entry.1.map id :=
    List.map_congr_left fun name inNames => normalizeName_of_ascii_lower
      (List.all_eq_true.mp (List.all_eq_true.mp lower _ (sameNames ▸ listed)) name inNames)
  rw [same, List.map_id]

/-- The built-in modifier of a name is the last one in the catalogue. -/
theorem find?_builtin [Regex.Limits] (wanted : String) :
    builtin.find? wanted =
      (Modifier.catalogue.reverse.find? fun entry => entry.1.contains wanted).map (·.2) := by
  suffices folded : ∀ entries : List (List String × Modifier),
      (∀ entry ∈ entries, entry.1.map normalizeName = entry.1) → ∀ registry : Registry,
      (entries.foldl (fun registry entry => registry.registerAll entry.1 entry.2) registry).find?
          wanted =
        ((entries.reverse.find? fun entry => entry.1.contains wanted).map (·.2)).or
          (registry.find? wanted) by
    rw [builtin, folded _ (fun entry => catalogue_normalized) empty]
    exact Option.or_none
  intro entries
  induction entries with
  | nil => exact fun _ _ => rfl
  | cons entry rest restIH =>
      intro normalized registry
      obtain ⟨here, later⟩ := List.forall_mem_cons.mp normalized
      rw [List.foldl_cons, restIH later, find?_registerAll, here, List.reverse_cons,
        List.find?_append, List.find?_singleton]
      cases rest.reverse.find? fun entry => entry.1.contains wanted with
      | some found => rfl
      | none => by_cases named : wanted ∈ entry.1 <;> simp [named]

theorem mem_catalogue_of_find? [Regex.Limits] {name : String} {modifier : Modifier}
    (known : builtin.find? name = some modifier) :
    ∃ entry ∈ Modifier.catalogue, name ∈ entry.1 ∧ entry.2 = modifier := by
  rw [find?_builtin] at known
  obtain ⟨entry, found, rfl⟩ := Option.map_eq_some_iff.mp known
  have named := List.find?_some found
  rw [List.contains_iff_mem] at named
  exact ⟨entry, List.mem_reverse.mp (List.mem_of_find?_eq_some found), named, rfl⟩

inductive Change where
  | register (name : String) (modifier : Modifier)
  | addName (name target : String)

/-- The registry after a change.  An alias of an unknown modifier changes nothing. -/
def Change.perform (registry : Registry) : Change → Registry
  | .register name modifier => registry.register name modifier
  | .addName name target => (registry.alias? name target).getD registry

def after (registry : Registry) (changes : List Change) : Registry :=
  changes.foldl Change.perform registry

@[simp] theorem after_nil (registry : Registry) : registry.after [] = registry := rfl

@[simp] theorem after_cons (registry : Registry) (change : Change) (rest : List Change) :
    registry.after (change :: rest) = (change.perform registry).after rest := rfl

theorem find?_perform_addName (registry : Registry) (name target wanted : String) :
    ((Change.addName name target).perform registry).find? wanted =
      if normalizeName name = wanted then
        (registry.find? (normalizeName target)).or (registry.find? wanted)
      else registry.find? wanted := by
  rw [Change.perform, alias?]
  cases registry.find? (normalizeName target) with
  | none => simp
  | some modifier => exact find?_register registry name wanted modifier

/-- Every modifier of the registry is good. -/
def All (good : Modifier → Prop) (registry : Registry) : Prop :=
  ∀ name modifier, registry.find? name = some modifier → good modifier

theorem All.register (all : registry.All good) {modifier : Modifier} (isGood : good modifier)
    (name : String) : (registry.register name modifier).All good := by
  intro wanted found known
  rw [find?_register] at known
  split at known
  · cases known
    exact isGood
  · exact all wanted found known

theorem All.perform (all : registry.All good) {change : Change}
    (registered : ∀ name modifier, change = .register name modifier → good modifier) :
    (change.perform registry).All good := by
  cases change with
  | register name modifier => exact all.register (registered name modifier rfl) name
  | addName name target =>
      rw [Change.perform, alias?]
      cases known : registry.find? (normalizeName target) with
      | none => exact all
      | some modifier => exact all.register (all _ _ known) name

theorem All.after (all : registry.All good) {changes : List Change}
    (registered : ∀ name modifier, .register name modifier ∈ changes → good modifier) :
    (registry.after changes).All good := by
  induction changes generalizing registry with
  | nil => exact all
  | cons change rest restIH =>
      refine restIH (all.perform fun name modifier same => ?_) fun name modifier member => ?_
      · exact registered name modifier (by simp [same])
      · exact registered name modifier (by simp [member])

theorem all_builtin [Regex.Limits] (catalogued : ∀ entry ∈ Modifier.catalogue, good entry.2) :
    builtin.All good := by
  intro name modifier known
  obtain ⟨entry, member, _, rfl⟩ := mem_catalogue_of_find? known
  exact catalogued entry member

end Registry

end Stencil
