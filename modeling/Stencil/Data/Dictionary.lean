namespace Stencil

/-! Dictionaries that list their entries in ascending order of the keys. -/

structure Dictionary (α : Type) where
  entries : List (String × α)

namespace Dictionary

def empty : Dictionary α := ⟨[]⟩

instance : Inhabited (Dictionary α) := ⟨empty⟩

/-- Puts an entry at its place in an ascending list, instead of one with the same key. -/
def insertEntry (key : String) (value : α) : List (String × α) → List (String × α)
  | [] => [(key, value)]
  | (other, old) :: rest =>
      if key < other then (key, value) :: (other, old) :: rest
      else if key = other then (key, value) :: rest
      else (other, old) :: insertEntry key value rest

def insert (dictionary : Dictionary α) (key : String) (value : α) : Dictionary α :=
  ⟨insertEntry key value dictionary.entries⟩

/-- The value in the first entry with a key. -/
def lookup? (key : String) : List (String × α) → Option α
  | [] => none
  | (other, value) :: rest => if other = key then some value else lookup? key rest

def get? (dictionary : Dictionary α) (key : String) : Option α :=
  lookup? key dictionary.entries

def keys (dictionary : Dictionary α) : List String :=
  dictionary.entries.map (·.1)

def size (dictionary : Dictionary α) : Nat :=
  dictionary.entries.length

/-- The dictionary of a list of entries, of which the last one with a key counts. -/
def ofList (entries : List (String × α)) : Dictionary α :=
  entries.foldl (fun dictionary (key, value) => dictionary.insert key value) empty

/-- An order in which to list the entries of dictionaries.  It can be any order. -/
structure Iteration (α : Type) where
  entries : Dictionary α → List (String × α)
  perm : ∀ dictionary, (entries dictionary).Perm dictionary.entries

/-- By ascending keys. -/
def Iteration.ascending : Iteration α where
  entries := Dictionary.entries
  perm dictionary := .refl dictionary.entries

theorem lookup?_insertEntry (key wanted : String) (value : α) (entries : List (String × α)) :
    lookup? wanted (insertEntry key value entries) =
      if key = wanted then some value else lookup? wanted entries := by
  induction entries with
  | nil => rfl
  | cons entry rest restIH =>
      obtain ⟨other, old⟩ := entry
      unfold insertEntry
      split
      · rfl
      · split
        · next same => subst same; by_cases found : key = wanted <;> simp [lookup?, found]
        · next different =>
            simp only [lookup?, restIH]
            by_cases here : other = wanted
            · subst here
              simp [different]
            · simp [here]

@[simp] theorem get?_empty (key : String) : (empty : Dictionary α).get? key = none := rfl

theorem get?_insert (dictionary : Dictionary α) (key wanted : String) (value : α) :
    (dictionary.insert key value).get? wanted =
      if key = wanted then some value else dictionary.get? wanted :=
  lookup?_insertEntry key wanted value dictionary.entries

theorem mem_keys_of_get? {dictionary : Dictionary α} {key : String} {value : α}
    (found : dictionary.get? key = some value) : key ∈ dictionary.keys := by
  obtain ⟨entries⟩ := dictionary
  rw [get?] at found
  rw [keys]
  induction entries with
  | nil => cases found
  | cons entry rest restIH =>
      obtain ⟨other, old⟩ := entry
      rw [lookup?] at found
      by_cases here : other = key
      · simp [here]
      · rw [if_neg here] at found
        exact List.mem_cons_of_mem _ (restIH found)

end Dictionary

end Stencil
