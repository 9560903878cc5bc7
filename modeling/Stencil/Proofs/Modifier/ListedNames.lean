import Stencil.Proofs.Modifier.Writes
import Stencil.Proofs.Unicode.Lowercase

namespace Stencil

/-! Names that a registry lists.

A listed name has been normalized, and a caller's name is normalized before it is looked up.  Doing
that twice is doing it once, except that it drops the dots that dotted capital letters have left
behind: a name with such a dot is listed and cannot be asked for.
-/

/-- A name without the combining dots in it. -/
def undotted (name : String) : String :=
  String.ofList (name.toList.filter (· != Unicode.dotAbove))

theorem undotted_eq_self_iff {name : String} :
    undotted name = name ↔ Unicode.dotAbove ∉ name.toList := by
  rw [undotted, ← String.toList_inj, String.toList_ofList, List.filter_eq_self]
  constructor
  · intro kept member
    exact absurd (kept _ member) (by simp)
  · intro missing c member
    rw [bne_iff_ne]
    rintro rfl
    exact missing member

theorem normalizeName_normalizeName (name : String) :
    normalizeName (normalizeName name) = undotted (normalizeName name) := by
  rw [normalizeName, undotted, normalizeName, String.toList_ofList, List.filter_flatMap,
    List.filter_flatMap, List.flatMap_assoc]
  refine congrArg String.ofList (List.flatMap_congr fun c member => ?_)
  exact Unicode.lower_letters_of_lower (List.mem_filter.mp member).2

theorem dotAbove_mem_normalizeName_iff {name : String} :
    Unicode.dotAbove ∈ (normalizeName name).toList ↔ 'İ' ∈ name.toList := by
  rw [normalizeName, String.toList_ofList, List.mem_flatMap]
  constructor
  · rintro ⟨c, member, isImage⟩
    obtain ⟨inName, letter⟩ := List.mem_filter.mp member
    exact (Unicode.dotAbove_mem_lower_iff letter).mp isImage ▸ inName
  · intro inName
    have letter : Unicode.isAlphabetic 'İ' = true := by
      decide +kernel
    exact ⟨'İ', List.mem_filter.mpr ⟨inName, letter⟩,
      (Unicode.dotAbove_mem_lower_iff letter).mpr rfl⟩

theorem normalizeName_settled_iff {name : String} :
    normalizeName (normalizeName name) = normalizeName name ↔ 'İ' ∉ name.toList := by
  rw [normalizeName_normalizeName, undotted_eq_self_iff, dotAbove_mem_normalizeName_iff]

namespace Registry

variable {registry : Registry} {log : List (String × Modifier)} {name : String}

theorem contains_iff_mem_names :
    registry.contains name = true ↔ normalizeName name ∈ registry.names := by
  rw [contains, find?, Dictionary.get?_isSome_iff]
  rfl

theorem Records.normalizeName_of_mem_names (records : registry.Records log)
    (listed : name ∈ registry.names) : normalizeName name = undotted name := by
  obtain ⟨write, _, rfl⟩ := (records.mem_names_iff name).mp listed
  exact normalizeName_normalizeName write.1

/-- Whatever changes are made to the empty registry or to the built-in one, normalizing settles a
name at once just if it has no dotted capital I.  A listed name is looked up as the name without its
dots; so all listed names are known, and stand for what is stored under them and under no other
name, just if nothing was written under a name with a dotted capital I. -/
theorem listed_names_usable_iff [Regex.Limits] (origin : Origin) (changes : List Change) :
    let registry := origin.registry.after changes
    (∀ text, normalizeName (normalizeName text) = normalizeName text ↔ 'İ' ∉ text.toList) ∧
      (∀ name ∈ registry.names,
        (registry.contains name = true ↔ undotted name ∈ registry.names) ∧
          registry.resolve? (.named name []) = registry.resolve? ⟨undotted name, []⟩) ∧
      ((∀ name ∈ registry.names,
          registry.contains name = true ∧ (ModifierCall.named name []).name = name ∧
            registry.resolve? (.named name []) = registry.resolve? ⟨name, []⟩) ↔
        ∀ write ∈ record origin.writes changes, 'İ' ∉ write.1.toList) := by
  intro registry
  have records : registry.Records (record origin.writes changes) :=
    (records_origin origin).after changes
  refine ⟨fun text => normalizeName_settled_iff, fun name listed => ?_, fun usable => ?_,
    fun undottedWrites => ?_⟩
  · have lookedUp := records.normalizeName_of_mem_names listed
    rw [contains_iff_mem_names, ModifierCall.named, lookedUp]
    exact ⟨Iff.rfl, rfl⟩
  · intro write member
    have listed := (records.mem_names_iff _).mpr ⟨write, member, rfl⟩
    exact normalizeName_settled_iff.mp (usable _ listed).2.1
  · intro name listed
    obtain ⟨write, member, rfl⟩ := (records.mem_names_iff name).mp listed
    have settled := normalizeName_settled_iff.mpr (undottedWrites write member)
    rw [contains_iff_mem_names, ModifierCall.named, settled]
    exact ⟨listed, rfl, rfl⟩

/-- A registry that lists a name and does not know it. -/
theorem dotted_name_unknown :
    let registry := Origin.empty.registry.after [.register "İ" (.text Unicode.uppercase)]
    normalizeName (normalizeName "İ") ≠ normalizeName "İ" ∧
      registry.names = ["i\u0307"] ∧ registry.contains "i\u0307" = false := by
  decide +kernel

end Registry

end Stencil
