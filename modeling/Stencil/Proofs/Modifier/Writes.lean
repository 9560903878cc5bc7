import Stencil.Proofs.Data.FiniteMap
import Stencil.Proofs.Modifier.Changes

namespace Stencil.Registry

/-! Registries as records of writes.

A record lists the names as they were given, each with the modifier that was written under it.
Registering writes the modifier at hand and an alias writes what its target stands for by then, so
the modifier of a name is the one that was last written under a name with the same letters.
-/

/-- The modifier last written under a name that reads the same when it is normalized. -/
def lastWrite? (log : List (String × Modifier)) (name : String) : Option Modifier :=
  (log.filter fun write => normalizeName write.1 == normalizeName name).getLast?.map (·.2)

namespace Change

/-- The name that a change writes under. -/
def name : Change → String
  | .register name _ => name
  | .addName name _ => name

/-- What a change writes after what has been written before.  An alias of nothing writes nothing. -/
def write? (log : List (String × Modifier)) : Change → Option (String × Modifier)
  | .register name modifier => some (name, modifier)
  | .addName name target => (lastWrite? log target).map fun modifier => (name, modifier)

end Change

/-- All that is written by changes, after what has been written before. -/
def record (log : List (String × Modifier)) : List Change → List (String × Modifier)
  | [] => log
  | change :: rest => record (log ++ (change.write? log).toList) rest

/-- The registries that there are before any change. -/
inductive Origin where
  | empty
  | builtin

namespace Origin

def registry [Regex.Limits] : Origin → Registry
  | .empty => .empty
  | .builtin => .builtin

def writes [Regex.Limits] : Origin → List (String × Modifier)
  | .empty => []
  | .builtin => Modifier.catalogue.flatMap fun entry => entry.1.map fun name => (name, entry.2)

end Origin

variable {registry : Registry} {log : List (String × Modifier)}

/-- The registry holds the last modifier of each normalized name and nothing else. -/
def Records (registry : Registry) (log : List (String × Modifier)) : Prop :=
  registry.modifiers = .ofList (log.map fun write => (normalizeName write.1, write.2))

namespace Records

theorem find? (records : registry.Records log) (name : String) :
    registry.find? (normalizeName name) = lastWrite? log name := by
  rw [Registry.find?, records, Dictionary.get?_ofList, lastWrite?, List.filter_map,
    List.getLast?_map, Option.map_map]
  rfl

theorem mem_names_iff (records : registry.Records log) (name : String) :
    name ∈ registry.names ↔ ∃ write ∈ log, normalizeName write.1 = name := by
  rw [names, records, Dictionary.mem_keys_ofList, List.map_map, List.mem_map]
  rfl

theorem register (records : registry.Records log) (name : String) (modifier : Modifier) :
    (registry.register name modifier).Records (log ++ [(name, modifier)]) := by
  rw [Records, Registry.register, records, List.map_append, Dictionary.ofList,
    Dictionary.ofList, List.foldl_append]
  rfl

theorem perform (records : registry.Records log) (change : Change) :
    (change.perform registry).Records (log ++ (change.write? log).toList) := by
  cases change with
  | register name modifier => exact records.register name modifier
  | addName name target =>
      rw [Change.perform, alias?, Change.write?, records.find?]
      cases lastWrite? log target with
      | none => simpa using records
      | some modifier => exact records.register name modifier

theorem after (records : registry.Records log) (changes : List Change) :
    (registry.after changes).Records (record log changes) := by
  induction changes generalizing registry log with
  | nil => exact records
  | cons change rest restIH => exact restIH (records.perform change)

theorem registerAll (records : registry.Records log) (names : List String)
    (modifier : Modifier) :
    (registry.registerAll names modifier).Records
      (log ++ names.map fun name => (name, modifier)) := by
  induction names generalizing registry log with
  | nil =>
      rw [List.map_nil, List.append_nil]
      exact records
  | cons name rest restIH =>
      have later := restIH (records.register name modifier)
      rwa [List.append_assoc] at later

end Records

theorem records_origin [Regex.Limits] (origin : Origin) :
    origin.registry.Records origin.writes := by
  cases origin with
  | empty => rfl
  | builtin =>
      suffices folded : ∀ (entries : List (List String × Modifier)) (registry : Registry)
          (log : List (String × Modifier)), registry.Records log →
          (entries.foldl (fun registry entry => registry.registerAll entry.1 entry.2)
            registry).Records
          (log ++ entries.flatMap fun entry => entry.1.map fun name => (name, entry.2)) from
        folded Modifier.catalogue empty [] rfl
      intro entries
      induction entries with
      | nil =>
          intro registry log records
          simpa using records
      | cons entry rest restIH =>
          intro registry log records
          have later := restIH _ _ (records.registerAll entry.1 entry.2)
          rwa [List.append_assoc] at later

theorem names_ascending (records : registry.Records log) : registry.names.Pairwise (· < ·) := by
  rw [names, records]
  exact Dictionary.ascending_ofList _

theorem find?_perform_of_ne {change : Change} {wanted : String}
    (other : normalizeName change.name ≠ wanted) :
    (change.perform registry).find? wanted = registry.find? wanted := by
  cases change with
  | register name modifier => exact (find?_register ..).trans (if_neg other)
  | addName name target => exact (find?_perform_addName ..).trans (if_neg other)

theorem find?_after_of_ne {changes : List Change} {wanted : String}
    (others : ∀ change ∈ changes, normalizeName change.name ≠ wanted) :
    (registry.after changes).find? wanted = registry.find? wanted := by
  induction changes generalizing registry with
  | nil => rfl
  | cons change rest restIH =>
      obtain ⟨here, later⟩ := List.forall_mem_cons.mp others
      rw [after_cons, restIH later, find?_perform_of_ne here]

/-- Names of one modifier stand for the same transform, whatever the parameters. -/
theorem resolve?_of_find? {name other : String} (same : registry.find? name = registry.find? other)
    (params : List String) : registry.resolve? ⟨name, params⟩ = registry.resolve? ⟨other, params⟩ := by
  rw [resolve?, resolve?, expand, expand]
  simp only [same]

theorem alias?_of_find? {name target : String} {modifier : Modifier}
    (known : registry.find? (normalizeName target) = some modifier) :
    registry.alias? name target = some (registry.register name modifier) := by
  rw [alias?, known]
  rfl

theorem resolve?_register_alias {name target : String} {modifier : Modifier}
    (known : registry.find? (normalizeName target) = some modifier) (params : List String) :
    (registry.register name modifier).resolve? (.named name params) =
      (registry.register name modifier).resolve? (.named target params) := by
  refine resolve?_of_find? ?_ params
  rw [find?_register, find?_register, if_pos rfl, known, ite_self]

/-- Whatever changes are made, to the empty registry or to the built-in one, every name stands for
the modifier last written under it or under a name that is normalized to the same letters.  The
names are those of the writes, each once and in ascending order.  An alias of nothing changes
nothing; any other one resolves as its target does right then, and keeps that modifier until its own
name is written again. -/
theorem after_last_writes [Regex.Limits] (origin : Origin) (changes : List Change) :
    let registry := origin.registry.after changes
    let log := record origin.writes changes
    (∀ name params, registry.find? (ModifierCall.named name params).name = lastWrite? log name) ∧
      (∀ name, registry.contains name = true ↔
        ∃ write ∈ log, normalizeName write.1 = normalizeName name) ∧
      registry.names.Pairwise (· < ·) ∧
      (∀ name, name ∈ registry.names ↔ ∃ write ∈ log, normalizeName write.1 = name) ∧
      registry.size = registry.names.length ∧
      ∀ name target,
        (registry.contains target = false →
          registry.alias? name target = none ∧
            (Change.addName name target).perform registry = registry) ∧
        (registry.contains target = true → ∃ aliased,
          registry.alias? name target = some aliased ∧
            (Change.addName name target).perform registry = aliased ∧
            (∀ params,
              aliased.resolve? (.named name params) = aliased.resolve? (.named target params)) ∧
            ∀ later : List Change,
              (∀ change ∈ later, normalizeName change.name ≠ normalizeName name) →
                (aliased.after later).find? (normalizeName name) =
                  registry.find? (normalizeName target)) := by
  intro registry log
  have records : registry.Records log := (records_origin origin).after changes
  refine ⟨fun name _ => records.find? name, fun name => ?_, names_ascending records,
    records.mem_names_iff, ?_, fun name target => ⟨fun unknown => ?_, fun isKnown => ?_⟩⟩
  · rw [contains, Registry.find?, Dictionary.get?_isSome_iff]
    exact records.mem_names_iff (normalizeName name)
  · rw [names, Dictionary.keys, List.length_map]
    rfl
  · have nothing : registry.alias? name target = none := by
      rw [contains, Option.isSome_eq_false_iff, Option.isNone_iff_eq_none] at unknown
      rw [alias?, unknown]
      rfl
    exact ⟨nothing, by rw [Change.perform, nothing, Option.getD_none]⟩
  · obtain ⟨modifier, known⟩ := Option.isSome_iff_exists.mp isKnown
    have made : registry.alias? name target = some (registry.register name modifier) :=
      alias?_of_find? known
    refine ⟨_, made, by rw [Change.perform, made, Option.getD_some],
      resolve?_register_alias known, fun later others => ?_⟩
    rw [find?_after_of_ne others, find?_register, if_pos rfl, known]

/-- An alias that outlives the modifier it was made for. -/
theorem shout_after_uppercase :
    let changes := [Change.register "upper-case" (.text Unicode.uppercase)]
    let registry := Origin.empty.registry.after changes
    registry.contains "Uppercase" = true ∧ ∃ aliased,
      registry.alias? "shout!" "Uppercase" = some aliased ∧
        (aliased.after [.register "UPPERCASE" (.text List.reverse)]).find?
            (normalizeName "shout!") =
          registry.find? (normalizeName "Uppercase") := by
  intro changes registry
  have isKnown : registry.contains "Uppercase" = true := by
    have written : registry = empty.register "upper-case" (.text Unicode.uppercase) := rfl
    rw [contains, written, find?_register, if_pos (by decide)]
    rfl
  obtain ⟨_, _, _, _, _, aliases⟩ := after_last_writes .empty changes
  obtain ⟨aliased, made, _, _, lasting⟩ := (aliases "shout!" "Uppercase").2 isKnown
  refine ⟨isKnown, aliased, made, lasting _ fun change member => ?_⟩
  rw [List.mem_singleton.mp member]
  decide

end Stencil.Registry
