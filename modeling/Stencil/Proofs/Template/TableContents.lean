import Stencil.Proofs.Template.Folding

namespace Stencil

/-! What the table of a template holds.

A template's table comes about by adding the slots of its occurrences one after the other.  So it
lists the keywords in the order in which they are first seen and the slots of each of them in the
order of the source, and what a segment points to is the occurrence that it was made for.
-/

namespace KeywordTable

/-- Adds slots under their keywords one after the other. -/
def insertAll (table : KeywordTable) (entries : List (String × Slot)) : KeywordTable :=
  entries.foldl (fun table entry => (table.insert entry.1 entry.2).1) table

@[simp] theorem insertAll_nil (table : KeywordTable) : table.insertAll [] = table := rfl

@[simp] theorem insertAll_cons (table : KeywordTable) (entry : String × Slot)
    (rest : List (String × Slot)) :
    table.insertAll (entry :: rest) = (table.insert entry.1 entry.2).1.insertAll rest := rfl

@[simp] theorem slots_empty (keyword : String) : empty.slots keyword = [] := rfl

theorem slots_insertEntry (keyword wanted : String) (slot : Slot)
    (entries : List (String × List Slot)) :
    slots ⟨(insertEntry keyword slot entries).1⟩ wanted =
      if keyword = wanted then slots ⟨entries⟩ wanted ++ [slot] else slots ⟨entries⟩ wanted := by
  induction entries with
  | nil => by_cases here : keyword = wanted <;> simp [insertEntry, slots, here]
  | cons entry rest restIH =>
      obtain ⟨other, stored⟩ := entry
      by_cases same : other = keyword
      · subst same
        by_cases here : other = wanted <;> simp [insertEntry, slots, here]
      · by_cases found : other = wanted
        · subst found
          simp [insertEntry, slots, same, Ne.symm same]
        · simpa [insertEntry, slots, same, found] using restIH

theorem slots_insert (table : KeywordTable) (keyword wanted : String) (slot : Slot) :
    (table.insert keyword slot).1.slots wanted =
      if keyword = wanted then table.slots wanted ++ [slot] else table.slots wanted :=
  slots_insertEntry keyword wanted slot table.entries

theorem slotCount_insertEntry (keyword : String) (slot : Slot)
    (entries : List (String × List Slot)) :
    slotCount ⟨(insertEntry keyword slot entries).1⟩ = slotCount ⟨entries⟩ + 1 := by
  induction entries with
  | nil => rfl
  | cons entry rest restIH =>
      obtain ⟨other, stored⟩ := entry
      by_cases same : other = keyword
      · simp [insertEntry, slotCount, same]
        omega
      · simp only [slotCount, insertEntry, if_neg same, List.flatMap_cons, List.length_append]
          at restIH ⊢
        omega

theorem slotCount_insert (table : KeywordTable) (keyword : String) (slot : Slot) :
    (table.insert keyword slot).1.slotCount = table.slotCount + 1 :=
  slotCount_insertEntry keyword slot table.entries

theorem slots_insertAll (table : KeywordTable) (entries : List (String × Slot))
    (wanted : String) :
    (table.insertAll entries).slots wanted =
      table.slots wanted ++ (entries.filter (·.1 == wanted)).map (·.2) := by
  induction entries generalizing table with
  | nil => simp
  | cons entry rest restIH =>
      rw [insertAll_cons, restIH, slots_insert]
      by_cases here : entry.1 = wanted <;> simp [here]

theorem slotCount_insertAll (table : KeywordTable) (entries : List (String × Slot)) :
    (table.insertAll entries).slotCount = table.slotCount + entries.length := by
  induction entries generalizing table with
  | nil => rfl
  | cons entry rest restIH =>
      rw [insertAll_cons, restIH, slotCount_insert, List.length_cons]
      omega

theorem keywords_insertAll (table : KeywordTable) (entries : List (String × Slot)) :
    (table.insertAll entries).keywords =
      table.keywords ++ ((entries.map (·.1)).removeAll table.keywords).eraseDups := by
  induction entries generalizing table with
  | nil => simp [List.removeAll]
  | cons entry rest restIH =>
      rw [insertAll_cons, restIH, keywords_insert, List.map_cons, List.cons_removeAll]
      by_cases known : entry.1 ∈ table.keywords
      · rw [if_pos known, if_neg (by simpa using known)]
      · -- The new keyword ends the list, and its repetitions are dropped from the rest.
        have dropped : (rest.map (·.1)).removeAll (table.keywords ++ [entry.1]) =
            ((rest.map (·.1)).removeAll table.keywords).filter (!· == entry.1) := by
          simp only [List.removeAll, List.filter_filter]
          refine List.filter_congr fun keyword _ => ?_
          by_cases here : keyword = entry.1 <;> simp [here]
        rw [if_neg known, if_pos (by simpa using known), List.eraseDups_cons, dropped,
          List.append_assoc, List.singleton_append]

theorem keywords_insertAll_empty (entries : List (String × Slot)) :
    (empty.insertAll entries).keywords = (entries.map (·.1)).eraseDups := by
  have whole : (entries.map (·.1)).removeAll empty.keywords = entries.map (·.1) :=
    List.filter_eq_self.mpr fun _ _ => rfl
  rw [keywords_insertAll, whole]
  rfl

end KeywordTable

@[simp] theorem Chain.names_ofCalls (registry : Registry) (calls : List ModifierCall) :
    (Chain.ofCalls registry calls).names = calls.map (·.name) := by
  rw [names, ofCalls, List.map_map]
  rfl

theorem intercalate_cons (separator first : String) (rest : List String) :
    separator.intercalate (first :: rest) = first ++ String.join (rest.map (separator ++ ·)) := by
  induction rest generalizing first with
  | nil => simp
  | cons second rest restIH =>
      rw [String.intercalate_cons_cons, restIH, List.map_cons, String.join_cons]
      simp [String.append_assoc]

/-- How a listing writes a call: the name alone if there are no parameters, and else with the
parameters in parentheses and a comma and a space between each two of them. -/
inductive ModifierCall.WrittenAs : ModifierCall → String → Prop where
  | bare (name : String) : WrittenAs ⟨name, []⟩ name
  | applied (name first : String) (rest : List String) :
      WrittenAs ⟨name, first :: rest⟩
        (name ++ "(" ++ first ++ String.join (rest.map (", " ++ ·)) ++ ")")

theorem ModifierCall.writtenAs_described (call : ModifierCall) : call.WrittenAs call.described := by
  obtain ⟨name, params⟩ := call
  cases params with
  | nil => exact .bare name
  | cons first rest =>
      have text : described ⟨name, first :: rest⟩ =
          name ++ "(" ++ first ++ String.join (rest.map (", " ++ ·)) ++ ")" := by
        rw [described, if_neg (by simp), intercalate_cons]
        simp only [String.append_assoc]
      rw [text]
      exact .applied name first rest

namespace Occurrence

variable (d : Delimiters) (registry : Registry)

/-- The slot that an occurrence gets in a table. -/
def slot (occurrence : Occurrence) : Slot where
  source := occurrence.source
  chain := Chain.ofCalls registry (ModifierCall.ofChain d occurrence.chain.toList)

/-- The entry that an occurrence makes in a table. -/
def entry (occurrence : Occurrence) : String × Slot :=
  (occurrence.keyword, occurrence.slot d registry)

theorem entry_ofBody (place : Nat) (body : KeywordBody) :
    (ofBody d place body).entry d registry =
      (d.foldName (String.ofList (d.unescape body.name)), Template.slotOf d registry body) := by
  rw [entry, slot, Template.slotOf, ofBody, String.toList_ofList]

theorem entries_ofPieces (place : Nat) (pieces : List Piece) :
    (ofPieces d place pieces).map (entry d registry) =
      (pieces.filterMap Piece.body?).map fun body =>
        (d.foldName (String.ofList (d.unescape body.name)), Template.slotOf d registry body) := by
  induction pieces generalizing place with
  | nil => rfl
  | cons piece rest restIH =>
      cases piece with
      | literal c => exact restIH _
      | keyword body =>
          rw [ofPieces, List.map_cons, restIH, entry_ofBody]
          rfl

theorem ofPieces_eq_nil_iff {place : Nat} {pieces : List Piece} :
    ofPieces d place pieces = [] ↔ ∀ body, .keyword body ∉ pieces := by
  induction pieces generalizing place with
  | nil => simp [ofPieces]
  | cons piece rest restIH =>
      cases piece with
      | literal c => simpa [ofPieces] using restIH
      | keyword body =>
          simp only [ofPieces, List.cons_ne_nil, List.mem_cons, false_iff]
          exact fun missing => missing body (.inl rfl)

end Occurrence

namespace Template

variable {d : Delimiters} {registry : Registry} {text : String} {layout : Layout}

theorem table_compile (table : KeywordTable) (pieces : List Piece) :
    (compile d registry table pieces).2 =
      table.insertAll ((pieces.filterMap Piece.body?).map fun body =>
        (d.foldName (String.ofList (d.unescape body.name)), slotOf d registry body)) := by
  induction pieces generalizing table with
  | nil => rfl
  | cons piece rest restIH =>
      cases piece with
      | literal c => exact restIH table
      | keyword body => exact restIH _

theorem table_layout (compiled : (parse d registry text).layout = some layout) :
    layout.table = KeywordTable.empty.insertAll
      ((d.scan text).map (Occurrence.entry d registry)) := by
  rw [(layout_parse compiled).2, table_compile, Delimiters.scan, Occurrence.entries_ofPieces]

/-- Every segment of a keyword points to the entry of its occurrence. -/
theorem entries_layout (compiled : (parse d registry text).layout = some layout) :
    List.Forall₂ (fun entry place => layout.table.slot? place.1 place.2 = some entry)
      ((d.scan text).map (Occurrence.entry d registry)) layout.places := by
  obtain ⟨segments, table⟩ := layout_parse compiled
  rw [Layout.places, segments, table, Delimiters.scan, Occurrence.entries_ofPieces,
    List.forall₂_map_left_iff]
  exact places_compile d registry .empty (d.pieces text.toList) (.refl _)

theorem exists_layout (registry : Registry) (occupied : d.scan text ≠ []) :
    ∃ layout, (parse d registry text).layout = some layout := by
  have present : ¬ ∀ body, .keyword body ∉ d.pieces text.toList :=
    fun missing => occupied ((Occurrence.ofPieces_eq_nil_iff d).mpr missing)
  rw [parse_of_keyword present]
  exact ⟨_, rfl⟩

/-- The table of a template with keywords holds what a scan finds: the keywords as they are first
seen, under each of them its occurrences in the order of the source with the calls of their chains,
and nothing else.  What the segments point to are the occurrences one by one, and the lines of the
listing give their keywords with the calls of their chains, an arrow in front of each call. -/
theorem table_mirrors_scan (d : Delimiters) (registry : Registry) (text : String)
    (occupied : d.scan text ≠ []) :
    ∃ layout, (parse d registry text).layout = some layout ∧
      layout.table.keywords = ((d.scan text).map (·.keyword)).eraseDups ∧
      (∀ keyword, layout.table.slots keyword =
        ((d.scan text).filter (·.keyword == keyword)).map (Occurrence.slot d registry)) ∧
      (∀ occurrence : Occurrence, (occurrence.slot d registry).source = occurrence.source ∧
        (occurrence.slot d registry).chain.names =
          (ModifierCall.ofChain d occurrence.chain.toList).map (·.name)) ∧
      layout.table.slotCount = (d.scan text).length ∧
      layout.places.length = (d.scan text).length ∧
      (keywordLines d text).length = (d.scan text).length ∧
      ∀ (i : Nat) (occurrence : Occurrence), (d.scan text)[i]? = some occurrence →
        (∃ place, layout.places[i]? = some place ∧
          layout.table.slot? place.1 place.2 =
            some (occurrence.keyword, occurrence.slot d registry)) ∧
        ∃ calls, List.Forall₂ ModifierCall.WrittenAs
            (ModifierCall.ofChain d occurrence.chain.toList) calls ∧
          (keywordLines d text)[i]? =
            some (occurrence.keyword ++ String.join (calls.map (" -> " ++ ·))) := by
  obtain ⟨layout, compiled⟩ := exists_layout registry occupied
  have table := table_layout compiled
  have pointed := List.forall₂_map_left_iff.mp (entries_layout compiled)
  refine ⟨layout, compiled, ?_, fun keyword => ?_, fun occurrence => ⟨rfl, ?_⟩, ?_,
    pointed.length_eq.symm, List.length_map .., fun i occurrence here => ⟨?_, ?_⟩⟩
  · rw [table, KeywordTable.keywords_insertAll_empty, List.map_map]
    rfl
  · rw [table, KeywordTable.slots_insertAll, KeywordTable.slots_empty, List.nil_append,
      List.filter_map, List.map_map]
    rfl
  · rw [Occurrence.slot, Chain.names_ofCalls]
  · rw [table, KeywordTable.slotCount_insertAll, List.length_map]
    exact Nat.zero_add _
  · obtain ⟨inScan, rfl⟩ := List.getElem?_eq_some_iff.mp here
    have inPlaces : i < layout.places.length := pointed.length_eq ▸ inScan
    exact ⟨layout.places[i], List.getElem?_eq_getElem inPlaces, pointed.get inScan inPlaces⟩
  · refine ⟨(ModifierCall.ofChain d occurrence.chain.toList).map ModifierCall.described, ?_, ?_⟩
    · rw [List.forall₂_map_right_iff, List.forall₂_same]
      exact fun call _ => call.writtenAs_described
    · rw [keywordLines, List.getElem?_map, here, Option.map_some, intercalate_cons]

/-- A keyword that occurs again after another one. -/
theorem table_of_repeated_keyword :
    let text := "\x7btitle^trim\x7d \x7bname\x7d \x7bTitle\x7d"
    Delimiters.standard.scan text ≠ [] ∧ ∃ layout,
      (parse .standard .builtin text).layout = some layout ∧
        layout.table.keywords = ["TITLE", "NAME"] ∧ layout.table.slotCount = 3 := by
  intro text
  have occupied : Delimiters.standard.scan text ≠ [] := by
    decide +kernel
  obtain ⟨layout, compiled, keywords, _, _, slotCount, _⟩ :=
    table_mirrors_scan .standard .builtin text occupied
  refine ⟨occupied, layout, compiled, keywords.trans ?_, slotCount.trans ?_⟩ <;> decide +kernel

end Template

end Stencil
