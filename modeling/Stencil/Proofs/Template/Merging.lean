import Stencil.Proofs.Template.EntryPoints
import Stencil.Proofs.Template.WriteLog

namespace Stencil.KeywordValues

/-! Merging collections of values.

What is merged in stands behind everything else, in its own order, and of the collection that was
there only the keys that do not come again are left in front.  The order counts, since it decides
between keys that fold to one name.
-/

theorem eq_of_entries {left right : KeywordValues} (same : left.entries = right.entries) :
    left = right := by
  cases left
  cases right
  cases same
  rfl

theorem entries_extend (values other : KeywordValues) :
    (values.extend other).entries =
      values.entries.filter (fun entry => entry.1 ∉ other.keys) ++ other.entries := by
  rw [extend, entries_setAll, lastWrites_of_distinct other.distinct]
  rfl

theorem mem_keys_extend (values other : KeywordValues) (key : String) :
    key ∈ (values.extend other).keys ↔ key ∈ values.keys ∨ key ∈ other.keys := by
  rw [keys, entries_extend, List.map_append, List.mem_append]
  constructor
  · rintro (kept | added)
    · exact .inl ((List.filter_sublist.map _).subset kept)
    · exact .inr added
  · rintro (held | added)
    · by_cases again : key ∈ other.keys
      · exact .inr again
      · obtain ⟨entry, member, rfl⟩ := List.mem_map.mp held
        exact .inl (List.mem_map_of_mem (List.mem_filter.mpr ⟨member, decide_eq_true again⟩))
    · exact .inr added

theorem extend_assoc (a b c : KeywordValues) :
    (a.extend b).extend c = a.extend (b.extend c) := by
  -- Of the first collection both sides leave what neither of the others has.
  have first : (a.entries.filter fun entry => entry.1 ∉ b.keys).filter
        (fun entry => entry.1 ∉ c.keys) =
      a.entries.filter fun entry => entry.1 ∉ (b.extend c).keys := by
    rw [List.filter_filter]
    refine List.filter_congr fun entry _ => ?_
    rw [Bool.eq_iff_iff, Bool.and_eq_true, decide_eq_true_iff, decide_eq_true_iff,
      decide_eq_true_iff, mem_keys_extend, not_or, and_comm]
  apply eq_of_entries
  calc ((a.extend b).extend c).entries
      = (a.entries.filter fun entry => entry.1 ∉ (b.extend c).keys) ++
          (b.entries.filter fun entry => entry.1 ∉ c.keys) ++ c.entries := by
        rw [entries_extend, entries_extend, List.filter_append, first]
    _ = (a.extend (b.extend c)).entries := by
        rw [entries_extend a, entries_extend b, List.append_assoc]

theorem empty_extend (values : KeywordValues) : empty.extend values = values :=
  eq_of_entries (entries_extend empty values)

theorem extend_empty (values : KeywordValues) : values.extend empty = values := rfl

theorem extend_self (values : KeywordValues) : values.extend values = values := by
  have nothing : values.entries.filter (fun entry => entry.1 ∉ values.keys) = [] := by
    rw [List.filter_eq_nil_iff]
    intro entry member kept
    exact of_decide_eq_true kept (List.mem_map_of_mem member)
  apply eq_of_entries
  rw [entries_extend, nothing, List.nil_append]

theorem ofValue_toValue (values : KeywordValues) : ofValue values.toValue = .ok values :=
  congrArg Except.ok (eq_of_entries (entries_ofPairs values.distinct))

/-- Merging is associative, idempotent and has the empty collection as its neutral element, with
the same entries in the same order on both sides of each law.  The fields of an object give back the
collection that was written as them. -/
theorem merging_laws (a b c : KeywordValues) :
    (a.extend b).entries = a.entries.filter (fun entry => entry.1 ∉ b.keys) ++ b.entries ∧
      (a.extend b).extend c = a.extend (b.extend c) ∧
      empty.extend a = a ∧ a.extend empty = a ∧
      a.extend a = a ∧
      ofValue a.toValue = .ok a :=
  ⟨entries_extend a b, extend_assoc a b c, empty_extend a, extend_empty a, extend_self a,
    ofValue_toValue a⟩

example : ((ofPairs [("NAME", .null), ("SITE", .null)]).extend
    (ofPairs [("name", .null), ("NAME", .null)])).keys = ["SITE", "name", "NAME"] := by decide

end Stencil.KeywordValues
