import Mathlib.Data.Finset.Card
import Stencil.CommandLine.Render
import Stencil.Proofs.Data.FiniteMap
import Stencil.Proofs.Template.SinglePass

namespace Stencil

/-! Values as a log.

However a collection came about, it is determined by the single writes that were made, in their
order.  Each key stands where it was last written with what was written then, so that among keys
that fold to one name the latest write is also the last entry.
-/

/-- The writes to which no later one has the same key. -/
def lastWrites : List (String × Value) → List (String × Value)
  | [] => []
  | write :: rest =>
      if write.1 ∈ rest.map (·.1) then lastWrites rest else write :: lastWrites rest

theorem keys_lastWrites (log : List (String × Value)) :
    (lastWrites log).map (·.1) = (log.map (·.1)).dedup := by
  induction log with
  | nil => rfl
  | cons write rest restIH =>
      by_cases again : write.1 ∈ rest.map (·.1)
      · rw [lastWrites, if_pos again, restIH, List.map_cons, List.dedup_cons_of_mem again]
      · rw [lastWrites, if_neg again, List.map_cons, restIH, List.map_cons,
          List.dedup_cons_of_notMem again]

theorem lastWrites_of_distinct {log : List (String × Value)} (distinct : (log.map (·.1)).Nodup) :
    lastWrites log = log := by
  induction log with
  | nil => rfl
  | cons write rest restIH =>
      obtain ⟨new, restDistinct⟩ := List.nodup_cons.mp distinct
      rw [lastWrites, if_neg new, restIH restDistinct]

/-- The last of the writes whose key is of some kind is the last of the entries that stay. -/
theorem getLast?_filter_lastWrites (kind : String → Bool) (log : List (String × Value)) :
    ((lastWrites log).filter fun write => kind write.1).getLast? =
      (log.filter fun write => kind write.1).getLast? := by
  induction log with
  | nil => rfl
  | cons write rest restIH =>
      by_cases again : write.1 ∈ rest.map (·.1)
      · rw [lastWrites, if_pos again, restIH]
        by_cases isKind : kind write.1 = true
        · -- The later write of the same key is of the same kind.
          obtain ⟨later, member, sameKey⟩ := List.mem_map.mp again
          have kept : later ∈ rest.filter fun write => kind write.1 :=
            List.mem_filter.mpr ⟨member, by rw [sameKey, isKind]⟩
          rw [List.filter_cons, if_pos isKind,
            List.getLast?_cons_of_ne_nil (List.ne_nil_of_mem kept)]
        · rw [List.filter_cons, if_neg isKind]
      · rw [lastWrites, if_neg again]
        by_cases isKind : kind write.1 = true
        · rw [List.filter_cons, if_pos isKind, List.filter_cons, if_pos isKind,
            List.getLast?_cons, List.getLast?_cons, restIH]
        · rw [List.filter_cons, if_neg isKind, List.filter_cons, if_neg isKind, restIH]

theorem lastFolded?_lastWrites (d : Delimiters) (keyword : String)
    (log : List (String × Value)) :
    lastFolded? d keyword (lastWrites log) = lastFolded? d keyword log := by
  rw [lastFolded?, lastFolded?,
    getLast?_filter_lastWrites (fun key => d.foldName key == keyword)]

theorem lastFolded?_append (d : Delimiters) (keyword : String)
    (earlier later : List (String × Value)) :
    lastFolded? d keyword (earlier ++ later) =
      (lastFolded? d keyword later).or (lastFolded? d keyword earlier) := by
  rw [lastFolded?, lastFolded?, lastFolded?, List.filter_append, List.getLast?_append,
    Option.map_or]

/-- Entries whose keys do not fold to a name have no say in its value. -/
theorem lastFolded?_filter (d : Delimiters) {keyword : String} {kept : String × Value → Bool}
    {entries : List (String × Value)}
    (keeps : ∀ entry ∈ entries, d.foldName entry.1 = keyword → kept entry = true) :
    lastFolded? d keyword (entries.filter kept) = lastFolded? d keyword entries := by
  rw [lastFolded?, lastFolded?, List.filter_filter]
  congr 2
  refine List.filter_congr fun entry member => ?_
  by_cases folds : d.foldName entry.1 = keyword
  · rw [keeps entry member folds, Bool.and_true]
  · rw [beq_eq_false_iff_ne.mpr folds, Bool.false_and]

theorem lastFolded?_eq_none_iff {d : Delimiters} {keyword : String}
    {entries : List (String × Value)} :
    lastFolded? d keyword entries = none ↔ ∀ entry ∈ entries, d.foldName entry.1 ≠ keyword := by
  rw [lastFolded?, Option.map_eq_none_iff, List.getLast?_eq_none_iff, List.filter_eq_nil_iff]
  simp only [beq_iff_eq, Ne]

theorem field?_of_distinct {entries : List (String × Value)}
    (distinct : (entries.map (·.1)).Nodup) (key : String) :
    Value.field? key entries = (entries.filter fun entry => entry.1 == key).getLast?.map (·.2) := by
  rw [Value.field?, Dictionary.find?_of_distinct distinct]

/-- The filling of an occurrence when keywords have the given values. -/
def Occurrence.fillingBy? (d : Delimiters) (registry : Registry) (value? : String → Option Value)
    (occurrence : Occurrence) : Option (List Char) :=
  match value? occurrence.keyword with
  | none => some []
  | some value =>
      ((ModifierCall.ofChain d occurrence.chain.toList).foldlM
        (fun value call => registry.resolve call value) value).map Value.text

theorem Template.populateValues_eq_fillingBy? {d : Delimiters} {values : KeywordValues}
    {value? : String → Option Value}
    (same : ∀ keyword, lastFolded? d keyword values.entries = value? keyword)
    (registry : Registry) (template : String) :
    (parse d registry template).populateValues values =
      (replaceSpans (Occurrence.fillingBy? d registry value?) template.toList 0
        (d.scan template)).map String.ofList := by
  have sameFilling : Occurrence.filling? d registry values.entries =
      Occurrence.fillingBy? d registry value? := by
    funext occurrence
    rw [Occurrence.filling?, same]
    rfl
  rw [populateValues, render?_parse, sameFilling]

namespace KeywordValues

theorem entries_setAll (values : KeywordValues) (log : List (String × Value)) :
    (values.setAll log).entries =
      values.entries.filter (fun entry => entry.1 ∉ log.map (·.1)) ++ lastWrites log := by
  induction log generalizing values with
  | nil => simp [setAll, lastWrites]
  | cons write rest restIH =>
      have earlier :
          (without write.1 values.entries).filter (fun entry => entry.1 ∉ rest.map (·.1)) =
            values.entries.filter (fun entry => entry.1 ∉ (write :: rest).map (·.1)) := by
        rw [without, List.filter_filter]
        refine List.filter_congr fun entry _ => ?_
        rw [Bool.eq_iff_iff, Bool.and_eq_true, decide_eq_true_iff, decide_eq_true_iff, bne_iff_ne,
          List.map_cons, List.mem_cons, not_or, and_comm]
      have step : values.setAll (write :: rest) = (values.set write.1 write.2).setAll rest := rfl
      rw [step, restIH, entries_set, List.filter_append, earlier, List.append_assoc]
      congr 1
      by_cases again : write.1 ∈ rest.map (·.1)
      · rw [lastWrites, if_pos again, List.filter_cons_of_neg (by simpa using again)]
        rfl
      · rw [lastWrites, if_neg again, List.filter_cons_of_pos (by simpa using again)]
        rfl

/-- Of the values of a name the one that was written last counts. -/
theorem lastFolded?_setAll (d : Delimiters) (keyword : String) (values : KeywordValues)
    (log : List (String × Value)) :
    lastFolded? d keyword (values.setAll log).entries =
      (lastFolded? d keyword log).or (lastFolded? d keyword values.entries) := by
  rw [entries_setAll, lastFolded?_append, lastFolded?_lastWrites]
  cases written : lastFolded? d keyword log with
  | some value => rfl
  | none =>
      have unwritten := lastFolded?_eq_none_iff.mp written
      rw [Option.none_or, Option.none_or]
      refine lastFolded?_filter d fun entry _ folds => decide_eq_true fun overwritten => ?_
      obtain ⟨write, member, sameKey⟩ := List.mem_map.mp overwritten
      exact unwritten write member (sameKey ▸ folds)

inductive Update where
  /-- Writes one value, in place or on the way of building a collection up. -/
  | set (key : String) (value : Value)
  | extend (other : KeywordValues)
  /-- Writes the text of one assignment. -/
  | extendText (key text : String)

namespace Update

def perform (values : KeywordValues) : Update → KeywordValues
  | .set key value => values.set key value
  | .extend other => values.extend other
  | .extendText key text => CommandLine.extendTexts values [(key, text)]

/-- The single writes that make up an update. -/
def writes : Update → List (String × Value)
  | .set key value => [(key, value)]
  | .extend other => other.entries
  | .extendText key text => [(key, .string text)]

theorem perform_eq_setAll (values : KeywordValues) (update : Update) :
    update.perform values = values.setAll update.writes := by
  cases update <;> rfl

end Update

def afterUpdates (updates : List Update) : KeywordValues :=
  updates.foldl Update.perform empty

theorem foldl_perform (values : KeywordValues) (updates : List Update) :
    updates.foldl Update.perform values = values.setAll (updates.flatMap Update.writes) := by
  induction updates generalizing values with
  | nil => rfl
  | cons update rest restIH =>
      rw [List.foldl_cons, restIH, Update.perform_eq_setAll, List.flatMap_cons, setAll, setAll,
        setAll, List.foldl_append]

theorem entries_afterUpdates (updates : List Update) :
    (afterUpdates updates).entries = lastWrites (updates.flatMap Update.writes) := by
  rw [afterUpdates, foldl_perform, entries_setAll]
  rfl

/-- Updates leave the last write of each key, in the order of these writes, and filling in gives
every keyword the last value that was written under any key that folds to its name. -/
theorem afterUpdates_last_writes (updates : List Update) :
    let values := afterUpdates updates
    let log := updates.flatMap Update.writes
    values.keys.Nodup ∧ values.keys = (log.map (·.1)).dedup ∧
      values.size = (log.map (·.1)).toFinset.card ∧
      (∀ key, values.get? key =
        (log.filter fun write => write.1 == key).getLast?.map (·.2)) ∧
      ∀ (d : Delimiters) (registry : Registry) (template : String),
        (Template.parse d registry template).populateValues values =
          (replaceSpans (Occurrence.filling? d registry log) template.toList 0
            (d.scan template)).map String.ofList := by
  intro values log
  have entries : values.entries = lastWrites log := entries_afterUpdates updates
  have keys : values.keys = (log.map (·.1)).dedup := by
    rw [KeywordValues.keys, entries, keys_lastWrites]
  refine ⟨?_, keys, ?_, fun key => ?_, fun d registry template => ?_⟩
  · rw [keys]
    exact List.nodup_dedup _
  · rw [List.card_toFinset, ← keys, KeywordValues.keys, List.length_map]
    rfl
  · rw [get?, field?_of_distinct values.distinct, entries,
      getLast?_filter_lastWrites (fun other => other == key)]
  · have sameFilling : Occurrence.filling? d registry values.entries =
        Occurrence.filling? d registry log := by
      funext occurrence
      rw [Occurrence.filling?, Occurrence.filling?, entries, lastFolded?_lastWrites]
    rw [Template.populateValues, Template.render?_parse, sameFilling]

example : (afterUpdates [.set "NAME" (.string "a"), .set "name" .null,
    .set "NAME" (.string "c")]).keys = ["name", "NAME"] := by decide

end KeywordValues

end Stencil
