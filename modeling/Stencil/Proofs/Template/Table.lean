import Mathlib.Data.List.Forall2
import Stencil.Template.Table

namespace Stencil

/-! Places in the table of a template.

The place that adding a slot gives stays the place of that slot whatever is added later, so the
segments of a compiled template, which are made while the table still grows, find their slots in the
finished table.  Every keyword has one entry there, however often it occurs.
-/

/-- The keyword that a piece is, if it is one. -/
def Piece.body? : Piece → Option KeywordBody
  | .literal _ => none
  | .keyword body => some body

/-- The place in the table that a segment stands for, if it stands for one. -/
def Segment.place? : Segment → Option (Nat × Nat)
  | .literal _ => none
  | .slot place index => some (place, index)

namespace KeywordTable

/-- Every slot of the earlier table is at the same place in the later one. -/
def Extends (earlier later : KeywordTable) : Prop :=
  ∀ place index found, earlier.slot? place index = some found →
    later.slot? place index = some found

theorem Extends.refl (table : KeywordTable) : table.Extends table :=
  fun _ _ _ found => found

theorem Extends.trans {first second third : KeywordTable} (left : first.Extends second)
    (right : second.Extends third) : first.Extends third :=
  fun place index found here => right place index found (left place index found here)

@[simp] theorem slot?_cons_zero (entry : String × List Slot) (rest : List (String × List Slot))
    (index : Nat) :
    slot? ⟨entry :: rest⟩ 0 index = (entry.2[index]?).map fun slot => (entry.1, slot) := by
  cases found : entry.2[index]? <;> simp [slot?, found]

@[simp] theorem slot?_cons_succ (entry : String × List Slot) (rest : List (String × List Slot))
    (place index : Nat) : slot? ⟨entry :: rest⟩ (place + 1) index = slot? ⟨rest⟩ place index := by
  simp [slot?]

theorem slot?_insertEntry (keyword : String) (slot : Slot) (entries : List (String × List Slot)) :
    slot? ⟨(insertEntry keyword slot entries).1⟩ (insertEntry keyword slot entries).2.1
      (insertEntry keyword slot entries).2.2 = some (keyword, slot) := by
  induction entries with
  | nil => rfl
  | cons entry rest restIH =>
      obtain ⟨other, slots⟩ := entry
      by_cases same : other = keyword
      · simp [insertEntry, same]
      · simp [insertEntry, same, restIH]

theorem insertEntry_extends (keyword : String) (slot : Slot)
    (entries : List (String × List Slot)) :
    Extends ⟨entries⟩ ⟨(insertEntry keyword slot entries).1⟩ := by
  induction entries with
  | nil =>
      intro place index found here
      simp [slot?] at here
  | cons entry rest restIH =>
      obtain ⟨other, slots⟩ := entry
      intro place index found here
      by_cases same : other = keyword
      · cases place with
        | zero =>
            rw [slot?_cons_zero, Option.map_eq_some_iff] at here
            obtain ⟨stored, here, rfl⟩ := here
            have bound : index < slots.length := (List.getElem?_eq_some_iff.mp here).1
            simp [insertEntry, same, List.getElem?_append_left bound, here]
        | succ place => simpa [insertEntry, same] using here
      · cases place with
        | zero => simpa [insertEntry, same] using here
        | succ place =>
            rw [slot?_cons_succ] at here
            simpa [insertEntry, same] using restIH place index found here

theorem entries_ne_nil {table : KeywordTable} {place index : Nat} {found : String × Slot}
    (here : table.slot? place index = some found) : table.entries ≠ [] := by
  intro isEmpty
  simp [slot?, isEmpty] at here

theorem slot?_insert (table : KeywordTable) (keyword : String) (slot : Slot) :
    (table.insert keyword slot).1.slot? (table.insert keyword slot).2.1
      (table.insert keyword slot).2.2 = some (keyword, slot) :=
  slot?_insertEntry keyword slot table.entries

theorem insert_extends (table : KeywordTable) (keyword : String) (slot : Slot) :
    table.Extends (table.insert keyword slot).1 :=
  insertEntry_extends keyword slot table.entries

theorem keywords_insertEntry (keyword : String) (slot : Slot)
    (entries : List (String × List Slot)) :
    (insertEntry keyword slot entries).1.map (·.1) =
      if keyword ∈ entries.map (·.1) then entries.map (·.1)
      else entries.map (·.1) ++ [keyword] := by
  induction entries with
  | nil => rfl
  | cons entry rest restIH =>
      obtain ⟨other, slots⟩ := entry
      by_cases same : other = keyword
      · simp [insertEntry, same]
      · by_cases later : keyword ∈ rest.map (·.1)
        · rw [if_pos later] at restIH
          simp [insertEntry, same, restIH, later]
        · rw [if_neg later] at restIH
          simp [insertEntry, same, Ne.symm same, restIH, later]

theorem keywords_insert (table : KeywordTable) (keyword : String) (slot : Slot) :
    (table.insert keyword slot).1.keywords =
      if keyword ∈ table.keywords then table.keywords else table.keywords ++ [keyword] :=
  keywords_insertEntry keyword slot table.entries

theorem mem_keywords_insert {table : KeywordTable} {keyword wanted : String} {slot : Slot} :
    wanted ∈ (table.insert keyword slot).1.keywords ↔
      wanted ∈ table.keywords ∨ wanted = keyword := by
  rw [keywords_insert]
  by_cases known : keyword ∈ table.keywords
  · rw [if_pos known]
    exact ⟨.inl, fun either => either.elim id fun same => same ▸ known⟩
  · rw [if_neg known, List.mem_append, List.mem_singleton]

theorem keywords_nodup_insert {table : KeywordTable} (distinct : table.keywords.Nodup)
    (keyword : String) (slot : Slot) : (table.insert keyword slot).1.keywords.Nodup := by
  rw [keywords_insert]
  by_cases known : keyword ∈ table.keywords
  · rwa [if_pos known]
  · rw [if_neg known, List.nodup_append]
    refine ⟨distinct, by simp, ?_⟩
    intro earlier member last only same
    rw [List.mem_singleton] at only
    subst only
    exact known (same ▸ member)

theorem keywords_of_slot? {table : KeywordTable} {place index : Nat} {keyword : String}
    {slot : Slot} (here : table.slot? place index = some (keyword, slot)) :
    table.keywords[place]? = some keyword := by
  rw [keywords, List.getElem?_map]
  cases entry : table.entries[place]? with
  | none => simp [slot?, entry] at here
  | some found =>
      cases inEntry : found.2[index]? <;> simp [slot?, entry, inEntry] at here
      rw [Option.map_some, here.1]

/-- Two slots are in one entry just if their keywords are the same. -/
theorem place_eq_iff {table : KeywordTable} (distinct : table.keywords.Nodup)
    {place other index otherIndex : Nat} {keyword otherKeyword : String} {slot otherSlot : Slot}
    (here : table.slot? place index = some (keyword, slot))
    (there : table.slot? other otherIndex = some (otherKeyword, otherSlot)) :
    place = other ↔ keyword = otherKeyword := by
  have first := keywords_of_slot? here
  have second := keywords_of_slot? there
  constructor
  · intro same
    rw [same, second] at first
    exact (Option.some.inj first).symm
  · intro same
    rw [same, ← second] at first
    have inside : place < table.keywords.length := by
      rw [second] at first
      exact (List.getElem?_eq_some_iff.mp first).1
    exact (List.getElem?_inj inside distinct).mp first

end KeywordTable

namespace Template

variable (d : Delimiters) (registry : Registry)

@[simp] theorem compile_literal (table : KeywordTable) (c : Char) (rest : List Piece) :
    compile d registry table (.literal c :: rest) =
      (pushLiteral c (compile d registry table rest).1, (compile d registry table rest).2) := rfl

@[simp] theorem compile_keyword (table : KeywordTable) (body : KeywordBody) (rest : List Piece) :
    compile d registry table (.keyword body :: rest) =
      let added := table.insert (d.foldName (String.ofList (d.unescape body.name)))
        (slotOf d registry body)
      let compiled := compile d registry added.1 rest
      (.slot added.2.1 added.2.2 :: compiled.1, compiled.2) := rfl

theorem compile_extends (table : KeywordTable) (pieces : List Piece) :
    table.Extends (compile d registry table pieces).2 := by
  induction pieces generalizing table with
  | nil => exact .refl table
  | cons piece rest restIH =>
      cases piece with
      | literal c => exact restIH table
      | keyword body => exact (table.insert_extends _ _).trans (restIH _)

/-- The table stays empty just if there is no keyword. -/
theorem compile_isEmpty_iff (pieces : List Piece) :
    (compile d registry .empty pieces).2.entries.isEmpty = true ↔
      ∀ body, .keyword body ∉ pieces := by
  induction pieces with
  | nil => simp [compile, KeywordTable.empty]
  | cons piece rest restIH =>
      cases piece with
      | literal c => simpa using restIH
      | keyword body =>
          have kept := compile_extends d registry _ rest _ _ _
            (KeywordTable.empty.slot?_insert (d.foldName (String.ofList (d.unescape body.name)))
              (slotOf d registry body))
          constructor
          · intro isEmpty
            exact absurd (List.isEmpty_iff.mp isEmpty) (KeywordTable.entries_ne_nil kept)
          · intro missing
            exact absurd (List.mem_cons_self ..) (missing body)

theorem mem_keywords_compile (table : KeywordTable) (pieces : List Piece) (wanted : String) :
    wanted ∈ (compile d registry table pieces).2.keywords ↔ wanted ∈ table.keywords ∨
      wanted ∈ (pieces.filterMap Piece.body?).map fun body =>
        d.foldName (String.ofList (d.unescape body.name)) := by
  induction pieces generalizing table with
  | nil => simp [compile]
  | cons piece rest restIH =>
      cases piece with
      | literal c => exact restIH table
      | keyword body =>
          rw [compile_keyword]
          refine (restIH _).trans ?_
          have bodies : (Piece.keyword body :: rest).filterMap Piece.body? =
              body :: rest.filterMap Piece.body? := rfl
          rw [KeywordTable.mem_keywords_insert, bodies, List.map_cons, List.mem_cons, or_assoc]

theorem keywords_nodup_compile {table : KeywordTable} (distinct : table.keywords.Nodup)
    (pieces : List Piece) : (compile d registry table pieces).2.keywords.Nodup := by
  induction pieces generalizing table with
  | nil => exact distinct
  | cons piece rest restIH =>
      cases piece with
      | literal c => exact restIH distinct
      | keyword body => exact restIH (KeywordTable.keywords_nodup_insert distinct _ _)

theorem places_pushLiteral (c : Char) (segments : List Segment) :
    (pushLiteral c segments).filterMap Segment.place? = segments.filterMap Segment.place? := by
  unfold pushLiteral
  split <;> rfl

/-- The places of a compiled template are those of its keywords, in the order of the source, also in
a table that has grown since. -/
theorem places_compile {final : KeywordTable} (table : KeywordTable) (pieces : List Piece)
    (kept : (compile d registry table pieces).2.Extends final) :
    List.Forall₂ (fun body place => final.slot? place.1 place.2 =
        some (d.foldName (String.ofList (d.unescape body.name)), slotOf d registry body))
      (pieces.filterMap Piece.body?)
      ((compile d registry table pieces).1.filterMap Segment.place?) := by
  induction pieces generalizing table with
  | nil => exact .nil
  | cons piece rest restIH =>
      cases piece with
      | literal c =>
          rw [compile_literal, places_pushLiteral]
          exact restIH table kept
      | keyword body =>
          have slotKept := kept _ _ _ (compile_extends d registry _ rest _ _ _
            (table.slot?_insert (d.foldName (String.ofList (d.unescape body.name)))
              (slotOf d registry body)))
          exact .cons slotKept (restIH _ kept)

variable {d registry} {text : String}

theorem parse_of_no_keyword (missing : ∀ body, .keyword body ∉ d.pieces text.toList) :
    parse d registry text = ⟨text, none⟩ := by
  change (if (compile d registry .empty (d.pieces text.toList)).2.entries.isEmpty = true then _
    else _) = _
  rw [if_pos ((compile_isEmpty_iff d registry _).mpr missing)]

theorem parse_of_keyword (present : ¬ ∀ body, .keyword body ∉ d.pieces text.toList) :
    parse d registry text =
      ⟨text, some ⟨d.caseSensitive, (compile d registry .empty (d.pieces text.toList)).1,
        (compile d registry .empty (d.pieces text.toList)).2⟩⟩ := by
  change (if (compile d registry .empty (d.pieces text.toList)).2.entries.isEmpty = true then _
    else _) = _
  rw [if_neg fun isEmpty => present ((compile_isEmpty_iff d registry _).mp isEmpty)]

end Template

end Stencil
