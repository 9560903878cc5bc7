import Stencil.Proofs.Template.WriteLog
import Stencil.Proofs.Unicode.Uppercase

namespace Stencil

/-! Names without regard to case.

A name that has been folded folds to itself, so the names in a template's table can serve as keys.
What decides whether a key belongs to a keyword, and whether two keywords are one, is nothing but
the folded name.
-/

theorem Delimiters.foldName_foldName (d : Delimiters) (name : String) :
    d.foldName (d.foldName name) = d.foldName name := by
  cases sensitive : d.caseSensitive with
  | true => simp [foldName, sensitive]
  | false => simp [foldName, sensitive, Unicode.uppercase_uppercase]

/-- The unescaped names of a template's keywords, in the order of the source. -/
def Delimiters.namesIn (d : Delimiters) (template : String) : List String :=
  ((d.pieces template.toList).filterMap Piece.body?).map fun body =>
    String.ofList (d.unescape body.name)

/-- The places of a layout's slots in its table, in the order of the source. -/
def Layout.places (layout : Layout) : List (Nat × Nat) :=
  layout.segments.filterMap Segment.place?

theorem Occurrence.keywords_ofPieces (d : Delimiters) (place : Nat) (pieces : List Piece) :
    (ofPieces d place pieces).map (·.keyword) =
      (pieces.filterMap Piece.body?).map fun body =>
        d.foldName (String.ofList (d.unescape body.name)) := by
  induction pieces generalizing place with
  | nil => rfl
  | cons piece rest restIH =>
      cases piece with
      | literal c => exact restIH _
      | keyword body => exact congrArg (_ :: ·) (restIH _)

namespace Template

variable {d : Delimiters} {registry : Registry} {text : String} {layout : Layout}

theorem keywords_scan (d : Delimiters) (text : String) :
    (d.scan text).map (·.keyword) = (d.namesIn text).map d.foldName := by
  rw [Delimiters.scan, Occurrence.keywords_ofPieces, Delimiters.namesIn, List.map_map]
  rfl

theorem layout_parse (compiled : (parse d registry text).layout = some layout) :
    layout.segments = (compile d registry .empty (d.pieces text.toList)).1 ∧
      layout.table = (compile d registry .empty (d.pieces text.toList)).2 := by
  by_cases missing : ∀ body, .keyword body ∉ d.pieces text.toList
  · rw [parse_of_no_keyword missing] at compiled
    cases compiled
  · rw [parse_of_keyword missing] at compiled
    cases compiled
    exact ⟨rfl, rfl⟩

theorem mem_keywords_layout (compiled : (parse d registry text).layout = some layout)
    (keyword : String) :
    keyword ∈ layout.table.keywords ↔ keyword ∈ (d.scan text).map (·.keyword) := by
  rw [(layout_parse compiled).2, mem_keywords_compile, Delimiters.scan,
    Occurrence.keywords_ofPieces]
  exact or_iff_right List.not_mem_nil

theorem foldName_of_listed {keyword : String} (listed : keyword ∈ (d.scan text).map (·.keyword)) :
    d.foldName keyword = keyword := by
  rw [keywords_scan] at listed
  obtain ⟨name, _, rfl⟩ := List.mem_map.mp listed
  exact d.foldName_foldName name

theorem places_layout (compiled : (parse d registry text).layout = some layout) :
    List.Forall₂ (fun name place => ∃ slot,
        layout.table.slot? place.1 place.2 = some (d.foldName name, slot))
      (d.namesIn text) layout.places := by
  obtain ⟨segments, table⟩ := layout_parse compiled
  rw [Delimiters.namesIn, Layout.places, segments, List.forall₂_map_left_iff, table]
  refine (places_compile d registry .empty (d.pieces text.toList) (.refl _)).imp ?_
  exact fun body place here => ⟨_, here⟩

theorem keywords_nodup_layout (compiled : (parse d registry text).layout = some layout) :
    layout.table.keywords.Nodup := by
  have fresh : KeywordTable.empty.keywords.Nodup := List.nodup_nil
  rw [(layout_parse compiled).2]
  exact keywords_nodup_compile d registry fresh _

theorem lastFolded?_set {key keyword : String} (folds : d.foldName key = keyword)
    (values : KeywordValues) (value : Value) (name : String) :
    lastFolded? d name (values.set key value).entries =
      if name = keyword then some value else lastFolded? d name values.entries := by
  have log : values.set key value = values.setAll [(key, value)] := rfl
  rw [log, KeywordValues.lastFolded?_setAll, lastFolded?]
  by_cases here : name = keyword
  · rw [if_pos here, List.filter_cons_of_pos (by simp [folds, here])]
    rfl
  · rw [if_neg here, List.filter_cons_of_neg (by simp [folds, Ne.symm here])]
    rfl

/-- Folding is settled by doing it once, so a keyword that a template lists can be given a value
under the listed name or under any key with the same uppercase form where case does not matter: the
value reaches all occurrences of that keyword and no other one.  Occurrences are in one entry of the
table just if their unescaped names fold to one text. -/
theorem folded_names_are_keys (d : Delimiters) (registry : Registry) (text : String) :
    let template := parse d registry text
    (∀ name, d.foldName (d.foldName name) = d.foldName name) ∧
      (∀ keyword, (keyword ∈ (d.scan text).map (·.keyword) ∨
          ∃ layout, template.layout = some layout ∧ keyword ∈ layout.table.keywords) →
        ∀ key, key = keyword ∨ d.caseSensitive = false ∧
            String.ofList (Unicode.uppercase key.toList) = keyword →
          ∀ (values : KeywordValues) (value : Value),
            template.populateValues (values.set key value) =
                template.populateValues (values.set keyword value) ∧
              template.populateValues (values.set key value) =
                (replaceSpans (Occurrence.fillingBy? d registry fun name =>
                    if name = keyword then some value else lastFolded? d name values.entries)
                  text.toList 0 (d.scan text)).map String.ofList) ∧
      (d.scan text).map (·.keyword) = (d.namesIn text).map d.foldName ∧
      ∀ layout, template.layout = some layout →
        layout.places.length = (d.namesIn text).length ∧
          ∀ (i j : Nat) (name other : String) (place otherPlace : Nat × Nat),
            (d.namesIn text)[i]? = some name → layout.places[i]? = some place →
            (d.namesIn text)[j]? = some other → layout.places[j]? = some otherPlace →
              (place.1 = otherPlace.1 ↔ d.foldName name = d.foldName other) := by
  intro template
  refine ⟨d.foldName_foldName, ?_, keywords_scan d text, ?_⟩
  · intro keyword listed key spells values value
    have inScan : keyword ∈ (d.scan text).map (·.keyword) := by
      rcases listed with inScan | ⟨layout, compiled, inTable⟩
      · exact inScan
      · exact (mem_keywords_layout compiled keyword).mp inTable
    have settled : d.foldName keyword = keyword := foldName_of_listed inScan
    have folds : d.foldName key = keyword := by
      rcases spells with rfl | ⟨insensitive, uppercase⟩
      · exact settled
      · rw [Delimiters.foldName, insensitive, if_neg Bool.false_ne_true, uppercase]
    have underKey := populateValues_eq_fillingBy?
      (lastFolded?_set folds values value) registry text
    have underKeyword := populateValues_eq_fillingBy?
      (lastFolded?_set settled values value) registry text
    exact ⟨underKey.trans underKeyword.symm, underKey⟩
  · intro layout compiled
    have places := places_layout compiled
    refine ⟨places.length_eq.symm, ?_⟩
    intro i j name other place otherPlace atName atPlace atOther atOtherPlace
    have slotAt {index : Nat} {named : String} {placed : Nat × Nat}
        (nameHere : (d.namesIn text)[index]? = some named)
        (placeHere : layout.places[index]? = some placed) :
        ∃ slot, layout.table.slot? placed.1 placed.2 = some (d.foldName named, slot) := by
      obtain ⟨inNames, rfl⟩ := List.getElem?_eq_some_iff.mp nameHere
      obtain ⟨inPlaces, rfl⟩ := List.getElem?_eq_some_iff.mp placeHere
      exact places.get inNames inPlaces
    obtain ⟨slot, here⟩ := slotAt atName atPlace
    obtain ⟨otherSlot, there⟩ := slotAt atOther atOtherPlace
    exact KeywordTable.place_eq_iff (keywords_nodup_layout compiled) here there

/-- A sharp s, which two letters take the place of in uppercase. -/
theorem strasse_in_two_spellings :
    let text := "\x7bstraße\x7d \x7bSTRASSE^trim\x7d"
    let template := parse .standard .empty text
    "STRASSE" ∈ (Delimiters.standard.scan text).map (·.keyword) ∧
      String.ofList (Unicode.uppercase "Straße".toList) = "STRASSE" ∧
        template.populateValues (KeywordValues.empty.set "Straße" (.string "Weg")) =
          template.populateValues (KeywordValues.empty.set "STRASSE" (.string "Weg")) := by
  intro text template
  have listed : "STRASSE" ∈ (Delimiters.standard.scan text).map (·.keyword) := by
    decide +kernel
  have uppercase : String.ofList (Unicode.uppercase "Straße".toList) = "STRASSE" := by
    decide +kernel
  obtain ⟨_, reaches, _⟩ := folded_names_are_keys .standard .empty text
  exact ⟨listed, uppercase,
    (reaches _ (.inl listed) _ (.inr ⟨rfl, uppercase⟩) .empty (.string "Weg")).1⟩

end Template

end Stencil
