import Stencil.Proofs.Template.EntryPoints
import Stencil.Proofs.Template.Folding
import Stencil.Proofs.Unicode.CaseRoundTrip

namespace Stencil

/-! The letter case of keys.

Where case does not matter, a key can be written as in the template, in capitals or in small
letters.  Only small letters can go wrong: names with one of the lone capitals do not come back
from them, and the value then belongs to another name.
-/

namespace Delimiters

variable {d : Delimiters}

theorem foldName_of_insensitive (insensitive : d.caseSensitive = false) (name : String) :
    d.foldName name = String.ofList (Unicode.uppercase name.toList) := by
  rw [foldName, insensitive, if_neg Bool.false_ne_true]

theorem foldName_capitals (insensitive : d.caseSensitive = false) (name : String) :
    d.foldName (String.ofList (Unicode.uppercase name.toList)) = d.foldName name := by
  rw [← foldName_of_insensitive insensitive, foldName_foldName]

theorem foldName_small_iff (insensitive : d.caseSensitive = false) (name : String) :
    d.foldName (String.ofList (Unicode.lowercase name.toList)) = d.foldName name ↔
      ∀ c ∈ name.toList, c ∉ Unicode.loneCapitals := by
  rw [foldName_of_insensitive insensitive, foldName_of_insensitive insensitive,
    String.ofList_inj, String.toList_ofList]
  exact Unicode.uppercase_lowercase_iff

end Delimiters

namespace Template

/-- Giving a value under a key fills in the occurrences of one keyword and leaves all others blank,
whether the key is the field of an object or stands in a mapping or in a collection. -/
def KeyFills (d : Delimiters) (registry : Registry) (text key : String) (value : Value)
    (keyword : String) : Prop :=
  let template := parse d registry text
  let filled := (replaceSpans (Occurrence.fillingBy? d registry fun name =>
      if name = keyword then some value else none) text.toList 0 (d.scan text)).map String.ofList
  template.populate (.object [(key, value)]) = .ok filled ∧
    template.populateMap [(key, value)] = filled ∧
      template.populateValues (KeywordValues.empty.set key value) = filled

variable {d : Delimiters} {text key keyword name : String}

theorem keyFills_of_foldName (folds : d.foldName key = keyword) (registry : Registry)
    (text : String) (value : Value) : KeyFills d registry text key value keyword := by
  have known (name : String) : lastFolded? d name (KeywordValues.empty.set key value).entries =
      if name = keyword then some value else none :=
    lastFolded?_set folds .empty value name
  have collected := populateValues_eq_fillingBy? known registry text
  exact ⟨by rw [populate_object]; exact congrArg Except.ok collected, collected, collected⟩

/-- A key may be written as the name of a keyword is, or in capitals: the value goes to all
occurrences of that keyword and to nothing else.  In small letters it goes there just if the name
has no lone capital. -/
theorem key_case_is_ignored (insensitive : d.caseSensitive = false) (registry : Registry)
    (occurs : name ∈ d.namesIn text) (value : Value) :
    let keyword := d.foldName name
    let capitals := String.ofList (Unicode.uppercase name.toList)
    let small := String.ofList (Unicode.lowercase name.toList)
    keyword ∈ (d.scan text).map (·.keyword) ∧
      KeyFills d registry text name value keyword ∧
      KeyFills d registry text capitals value keyword ∧
      ((∀ c ∈ name.toList, c ∉ Unicode.loneCapitals) →
        KeyFills d registry text small value keyword) ∧
      ((∃ c ∈ name.toList, c ∈ Unicode.loneCapitals) →
        ∃ other, other ≠ keyword ∧ KeyFills d registry text small value other) := by
  intro keyword capitals small
  have fills {key other : String} (folds : d.foldName key = other) :=
    keyFills_of_foldName folds registry text value
  have back := Delimiters.foldName_small_iff insensitive name
  refine ⟨?_, fills rfl, fills (Delimiters.foldName_capitals insensitive name), ?_, ?_⟩
  · rw [keywords_scan]
    exact List.mem_map_of_mem occurs
  · intro plain
    exact fills (back.mpr plain)
  · rintro ⟨c, member, lone⟩
    exact ⟨d.foldName small, fun same => back.mp same c member lone, fills rfl⟩

/-- A sharp s in a name, which is two letters in capitals. -/
theorem street_in_small_letters :
    "Straße" ∈ Delimiters.standard.namesIn "\x7bStraße\x7d" ∧
      KeyFills .standard .empty "\x7bStraße\x7d" "straße" (.string "Weg") "STRASSE" := by
  have occurs : "Straße" ∈ Delimiters.standard.namesIn "\x7bStraße\x7d" := by decide +kernel
  obtain ⟨_, _, _, small, _⟩ := key_case_is_ignored rfl .empty occurs (.string "Weg")
  have spelled : String.ofList (Unicode.lowercase "Straße".toList) = "straße" := by decide +kernel
  have keyword : Delimiters.standard.foldName "Straße" = "STRASSE" := by decide +kernel
  have plain : ("Straße".toList.all fun c => decide (c ∉ Unicode.loneCapitals)) = true := by
    decide +kernel
  rw [spelled, keyword] at small
  exact ⟨occurs, small fun c member => of_decide_eq_true (List.all_eq_true.mp plain c member)⟩

/-- A dotted capital I as a name.  Its small letter is an i and a dot, which in capitals are an I
and a dot. -/
theorem dotted_capital_is_not_found :
    let template := parse .standard .empty "\x7bİ\x7d"
    "İ" ∈ Delimiters.standard.namesIn "\x7bİ\x7d" ∧
      template.populateValues (KeywordValues.empty.set "İ" (.string "x")) = some "x" ∧
      template.populateValues (KeywordValues.empty.set
        (String.ofList (Unicode.lowercase "İ".toList)) (.string "x")) = some "" := by
  decide +kernel

end Template

end Stencil
