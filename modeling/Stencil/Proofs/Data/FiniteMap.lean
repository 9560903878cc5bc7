import Stencil.Data.Dictionary

namespace Stencil.Dictionary

/-! Dictionaries as finite maps.

Inserting keeps the keys in ascending order, so every key occurs once and what stands beside it is
what was inserted last.
-/

variable {α : Type} {entries : List (String × α)} {dictionary : Dictionary α}

def Ascending (dictionary : Dictionary α) : Prop :=
  dictionary.keys.Pairwise (· < ·)

theorem mem_keys_insertEntry (key wanted : String) (value : α) (entries : List (String × α)) :
    wanted ∈ (insertEntry key value entries).map (·.1) ↔
      wanted = key ∨ wanted ∈ entries.map (·.1) := by
  induction entries with
  | nil => simp [insertEntry]
  | cons entry rest restIH =>
      obtain ⟨other, old⟩ := entry
      unfold insertEntry
      split
      · simp
      · split
        · next same => simp [same]
        · simp only [List.map_cons, List.mem_cons, restIH]
          exact or_left_comm

theorem insertEntry_ascending (key : String) (value : α)
    (ascending : (entries.map (·.1)).Pairwise (· < ·)) :
    ((insertEntry key value entries).map (·.1)).Pairwise (· < ·) := by
  induction entries with
  | nil => exact List.pairwise_singleton ..
  | cons entry rest restIH =>
      obtain ⟨other, old⟩ := entry
      obtain ⟨least, restAscending⟩ := List.pairwise_cons.mp ascending
      unfold insertEntry
      split
      · next before =>
          refine List.pairwise_cons.mpr ⟨fun later member => ?_, ascending⟩
          rcases List.mem_cons.mp member with rfl | inRest
          · exact before
          · exact String.lt_trans before (least later inRest)
      · next notBefore =>
          split
          · next same =>
              subst same
              exact ascending
          · next different =>
              have behind : other < key := by
                refine Decidable.byContradiction fun notBehind => different ?_
                exact String.le_antisymm (String.not_lt.mp notBehind) (String.not_lt.mp notBefore)
              refine List.pairwise_cons.mpr ⟨fun later member => ?_, restIH restAscending⟩
              rcases (mem_keys_insertEntry ..).mp member with rfl | inRest
              · exact behind
              · exact least later inRest

theorem ascending_empty : (empty : Dictionary α).Ascending :=
  List.Pairwise.nil

theorem Ascending.insert (ascending : dictionary.Ascending) (key : String) (value : α) :
    (dictionary.insert key value).Ascending :=
  insertEntry_ascending key value ascending

theorem Ascending.keys_nodup (ascending : dictionary.Ascending) : dictionary.keys.Nodup :=
  List.Pairwise.imp String.ne_of_lt ascending

theorem get?_isSome_iff (key : String) : (dictionary.get? key).isSome ↔ key ∈ dictionary.keys := by
  obtain ⟨entries⟩ := dictionary
  rw [get?, keys]
  induction entries with
  | nil => simp [lookup?]
  | cons entry rest restIH =>
      obtain ⟨other, value⟩ := entry
      by_cases here : other = key
      · simp [lookup?, here]
      · simpa [lookup?, here, Ne.symm here] using restIH

/-- Where no key occurs twice, the first entry of a key is the last one. -/
theorem find?_of_distinct (distinct : (entries.map (·.1)).Nodup) (key : String) :
    entries.find? (·.1 == key) = (entries.filter (·.1 == key)).getLast? := by
  rw [← List.head?_filter]
  induction entries with
  | nil => rfl
  | cons entry rest restIH =>
      rw [List.map_cons, List.nodup_cons] at distinct
      by_cases here : entry.1 = key
      · have nothing : rest.filter (·.1 == key) = [] := by
          rw [List.filter_eq_nil_iff]
          intro other member same
          have sameKey : other.1 = entry.1 := (beq_iff_eq.mp same).trans here.symm
          exact distinct.1 (sameKey ▸ List.mem_map_of_mem member)
        rw [List.filter_cons_of_pos (by simpa using here), nothing]
        rfl
      · rw [List.filter_cons_of_neg (by simpa using here)]
        exact restIH distinct.2

theorem lookup?_eq_find? (key : String) (entries : List (String × α)) :
    lookup? key entries = (entries.find? (·.1 == key)).map (·.2) := by
  induction entries with
  | nil => rfl
  | cons entry rest restIH =>
      by_cases here : entry.1 = key
      · rw [lookup?, if_pos here, List.find?_cons_of_pos (by simpa using here)]
        rfl
      · rw [lookup?, if_neg here, List.find?_cons_of_neg (by simpa using here), restIH]

theorem get?_foldl_insert (wanted : String) (entries : List (String × α))
    (dictionary : Dictionary α) :
    (entries.foldl (fun dictionary (key, value) => dictionary.insert key value) dictionary).get?
        wanted =
      ((entries.filter (·.1 == wanted)).getLast?.map (·.2)).or (dictionary.get? wanted) := by
  induction entries generalizing dictionary with
  | nil => rfl
  | cons entry rest restIH =>
      obtain ⟨key, value⟩ := entry
      rw [List.foldl_cons, restIH, get?_insert]
      by_cases here : key = wanted
      · rw [if_pos here, List.filter_cons_of_pos (by simpa using here), List.getLast?_cons]
        cases (rest.filter (·.1 == wanted)).getLast? <;> rfl
      · rw [if_neg here, List.filter_cons_of_neg (by simpa using here)]

/-- A list of entries is read from its end. -/
theorem get?_ofList (entries : List (String × α)) (key : String) :
    (ofList entries).get? key = (entries.filter (·.1 == key)).getLast?.map (·.2) := by
  rw [ofList, get?_foldl_insert, get?_empty, Option.or_none]

theorem ascending_ofList (entries : List (String × α)) : (ofList entries).Ascending := by
  suffices kept : ∀ dictionary : Dictionary α, dictionary.Ascending →
      (entries.foldl (fun dictionary (key, value) => dictionary.insert key value)
        dictionary).Ascending from kept empty ascending_empty
  induction entries with
  | nil => exact fun _ ascending => ascending
  | cons entry rest restIH => exact fun _ ascending => restIH _ (ascending.insert entry.1 entry.2)

theorem mem_keys_ofList (entries : List (String × α)) (key : String) :
    key ∈ (ofList entries).keys ↔ key ∈ entries.map (·.1) := by
  rw [← get?_isSome_iff, get?_ofList, Option.isSome_map, List.getLast?_isSome]
  simp

end Stencil.Dictionary
