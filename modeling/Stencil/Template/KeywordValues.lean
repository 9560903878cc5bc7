import Stencil.Value.Text

namespace Stencil

/-! The values that keywords are given.

The collection is a log of writes that keeps only the last write of each key, in the order of those
writes: a key that is set again moves to the end, so that it also wins over keys that merely fold
to the same name.
-/

/-- Why an argument cannot give values to keywords. -/
inductive ArgumentFault where
  /-- A template was given something other than an object. -/
  | notMapping (kind : Value.Kind)
  | notFields (value : Value)

namespace ArgumentFault

def message : ArgumentFault → String
  | .notMapping kind =>
      "Invalid populate argument: values must be a mapping, " ++ kind.name ++ " given"
  | .notFields value =>
      "Invalid populate argument: keyword values must be a mapping, got " ++
        String.ofList value.document

end ArgumentFault

structure KeywordValues where
  entries : List (String × Value)
  distinct : (entries.map (·.1)).Nodup

namespace KeywordValues

def empty : KeywordValues :=
  ⟨[], List.nodup_nil⟩

instance : Inhabited KeywordValues := ⟨empty⟩

def keys (values : KeywordValues) : List String :=
  values.entries.map (·.1)

def size (values : KeywordValues) : Nat :=
  values.entries.length

def get? (values : KeywordValues) (key : String) : Option Value :=
  Value.field? key values.entries

def without (key : String) (entries : List (String × Value)) : List (String × Value) :=
  entries.filter fun entry => entry.1 != key

theorem without_distinct {key : String} {entries : List (String × Value)}
    (distinct : (entries.map (·.1)).Nodup) : ((without key entries).map (·.1)).Nodup :=
  distinct.sublist (List.filter_sublist.map _)

theorem not_mem_without (key : String) (entries : List (String × Value)) :
    key ∉ (without key entries).map (·.1) := by
  simp [without]

/-- Writes a value under a key, which moves to the end. -/
def set (values : KeywordValues) (key : String) (value : Value) : KeywordValues where
  entries := without key values.entries ++ [(key, value)]
  distinct := by
    rw [List.map_append, List.map_singleton, List.nodup_append]
    refine ⟨without_distinct values.distinct, by simp, ?_⟩
    intro left member right only same
    rw [List.mem_singleton] at only
    have here : left = key := same.trans only
    exact not_mem_without key values.entries (here ▸ member)

/-- Writes several values in order. -/
def setAll (values : KeywordValues) (entries : List (String × Value)) : KeywordValues :=
  entries.foldl (fun values (key, value) => values.set key value) values

/-- Writes all entries of another collection in their order. -/
def extend (values other : KeywordValues) : KeywordValues :=
  values.setAll other.entries

theorem putField_keys (name : String) (value : Value) (fields : List (String × Value)) :
    (Value.putField name value fields).map (·.1) =
      if name ∈ fields.map (·.1) then fields.map (·.1) else fields.map (·.1) ++ [name] := by
  induction fields with
  | nil => simp [Value.putField]
  | cons field rest restIH =>
      obtain ⟨other, old⟩ := field
      by_cases same : other = name
      · simp [Value.putField, same]
      · simp only [Value.putField, if_neg same, List.map_cons, restIH, List.mem_cons,
          Ne.symm same, false_or]
        split <;> simp

theorem putField_distinct {name : String} {value : Value} {fields : List (String × Value)}
    (distinct : (fields.map (·.1)).Nodup) :
    ((Value.putField name value fields).map (·.1)).Nodup := by
  rw [putField_keys]
  split
  · exact distinct
  · next new =>
      rw [List.nodup_append]
      refine ⟨distinct, by simp, ?_⟩
      intro left member right only same
      rw [List.mem_singleton] at only
      have here : left = name := same.trans only
      exact new (here ▸ member)

/-- Writes a value under a key, which keeps its place if it has one. -/
def put (values : KeywordValues) (key : String) (value : Value) : KeywordValues where
  entries := Value.putField key value values.entries
  distinct := putField_distinct values.distinct

/-- Collects pairs: a key that occurs again keeps its first place and takes the last value. -/
def ofPairs (pairs : List (String × Value)) : KeywordValues :=
  pairs.foldl (fun values (key, value) => values.put key value) empty

def ofValue : Value → Except ArgumentFault KeywordValues
  | .object fields => .ok (ofPairs fields)
  | value => .error (.notFields value)

def toValue (values : KeywordValues) : Value :=
  .object values.entries

/-- Equality of entries, in any order. -/
def same (left right : KeywordValues) : Bool :=
  left.toValue.same right.toValue

@[simp] theorem entries_set (values : KeywordValues) (key : String) (value : Value) :
    (values.set key value).entries = without key values.entries ++ [(key, value)] := rfl

end KeywordValues

end Stencil
