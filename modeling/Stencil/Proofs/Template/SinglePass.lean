import Stencil.Template.Populate
import Stencil.Proofs.Template.KeywordGrammar
import Stencil.Proofs.Template.Table
import Stencil.Proofs.Text.Slices

namespace Stencil

/-! Filling in as one substitution.

`replaceSpans` says what filling a template in means: the text between the occurrences is copied and
every occurrence gives way to its filling, which depends on nothing but the occurrence and the
values.  A compiled template does the same with its segments and its table.
-/

/-- The value of the last entry whose folded key is the given one. -/
def lastFolded? (d : Delimiters) (keyword : String) (entries : List (String × Value)) :
    Option Value :=
  (entries.filter fun entry => d.foldName entry.1 == keyword).getLast?.map (·.2)

/-- What an occurrence is replaced by: nothing if its keyword has no value, otherwise the text of
the value after the calls of the occurrence's own chain, from left to right.  There is no filling if
one of the calls breaks off. -/
def Occurrence.filling? (d : Delimiters) (registry : Registry) (entries : List (String × Value))
    (occurrence : Occurrence) : Option (List Char) :=
  match lastFolded? d occurrence.keyword entries with
  | none => some []
  | some value =>
      ((ModifierCall.ofChain d occurrence.chain.toList).foldlM
        (fun value call => registry.resolve call value) value).map Value.text

/-- A text from a place on with its occurrences replaced and everything around them copied. -/
def replaceSpans (filling? : Occurrence → Option (List Char)) (text : List Char) :
    Nat → List Occurrence → Option (List Char)
  | place, [] => some (Text.slice place (Text.width text) text)
  | place, occurrence :: rest => do
      let filled ← filling? occurrence
      let others ← replaceSpans filling? text occurrence.stop rest
      return Text.slice place occurrence.start text ++ filled ++ others

namespace Occurrence

variable {d : Delimiters}

theorem mem_ofPieces {place : Nat} {pieces : List Piece} {occurrence : Occurrence}
    (member : occurrence ∈ ofPieces d place pieces) :
    ∃ before after, pieces.flatMap (Piece.source d) =
        before ++ (occurrence.source.toList ++ after) ∧
      occurrence.start = place + Text.width before ∧
      occurrence.stop = occurrence.start + Text.width occurrence.source.toList ∧
      occurrence.source.toList ≠ [] := by
  induction pieces generalizing place with
  | nil => simp [ofPieces] at member
  | cons piece rest restIH =>
      cases piece with
      | literal c =>
          obtain ⟨before, after, whole, start, stop, nonempty⟩ := restIH member
          refine ⟨c :: before, after, ?_, ?_, stop, nonempty⟩
          · rw [List.flatMap_cons, whole]
            rfl
          · rw [start, Text.width_cons, Nat.add_assoc]
      | keyword body =>
          rcases List.mem_cons.mp member with rfl | member
          · exact ⟨[], rest.flatMap (Piece.source d), by simp [ofBody, Piece.source],
              rfl, by simp [ofBody], by simp [ofBody, KeywordBody.source]⟩
          · obtain ⟨before, after, whole, start, stop, nonempty⟩ := restIH member
            refine ⟨body.source d ++ before, after, ?_, ?_, stop, nonempty⟩
            · rw [List.flatMap_cons, whole, List.append_assoc]
              rfl
            · rw [start, Text.width_append, ← Nat.add_assoc]
              rfl

theorem le_start_of_mem {place : Nat} {pieces : List Piece} {occurrence : Occurrence}
    (member : occurrence ∈ ofPieces d place pieces) : place ≤ occurrence.start := by
  obtain ⟨before, _, _, start, _⟩ := mem_ofPieces member
  omega

theorem ofPieces_pairwise (d : Delimiters) (place : Nat) (pieces : List Piece) :
    (ofPieces d place pieces).Pairwise fun left right => left.stop ≤ right.start := by
  induction pieces generalizing place with
  | nil => exact .nil
  | cons piece rest restIH =>
      cases piece with
      | literal c => exact restIH _
      | keyword body =>
          rw [ofPieces]
          exact .cons (fun later member => le_start_of_mem member) (restIH _)

end Occurrence

namespace Delimiters

variable {d : Delimiters} {template : String} {occurrence : Occurrence}

theorem scan_span (member : occurrence ∈ d.scan template) :
    Text.IsBoundary template.toList occurrence.start ∧
      Text.IsBoundary template.toList occurrence.stop ∧ occurrence.start < occurrence.stop ∧
      Text.slice occurrence.start occurrence.stop template.toList = occurrence.source.toList := by
  obtain ⟨before, after, whole, start, stop, nonempty⟩ := Occurrence.mem_ofPieces member
  rw [source_pieces] at whole
  rw [Nat.zero_add] at start
  have positive := Text.width_pos nonempty
  refine ⟨⟨before, _, whole, start.symm⟩,
    ⟨before ++ occurrence.source.toList, after, by rw [whole, List.append_assoc], ?_⟩,
    by omega, ?_⟩
  · rw [Text.width_append, stop, start]
  · rw [whole, stop, start, Text.slice_between]

end Delimiters

namespace Piece

/-- The text of pieces when every keyword is replaced by its filling. -/
def texts? (filling? : KeywordBody → Option (List Char)) : List Piece → Option (List Char)
  | [] => some []
  | .literal c :: rest => (texts? filling? rest).map (c :: ·)
  | .keyword body :: rest => do
      let filled ← filling? body
      let others ← texts? filling? rest
      return filled ++ others

theorem texts?_of_no_keyword {d : Delimiters} {filling? : KeywordBody → Option (List Char)}
    {pieces : List Piece} (missing : ∀ body, .keyword body ∉ pieces) :
    texts? filling? pieces = some (pieces.flatMap (Piece.source d)) := by
  induction pieces with
  | nil => rfl
  | cons piece rest restIH =>
      cases piece with
      | literal c =>
          rw [texts?, restIH fun body member => missing body (by simp [member])]
          rfl
      | keyword body => exact absurd (List.mem_cons_self ..) (missing body)

end Piece

/-- Replacing the occurrences that pieces have is replacing the keywords among the pieces.  `copied`
is the text in front of the pieces that has not been given out yet. -/
theorem replaceSpans_ofPieces {d : Delimiters} {filling? : Occurrence → Option (List Char)}
    {bodyFilling? : KeywordBody → Option (List Char)}
    (same : ∀ place body, filling? (.ofBody d place body) = bodyFilling? body)
    (done copied : List Char) (pieces : List Piece) :
    replaceSpans filling? (done ++ (copied ++ pieces.flatMap (Piece.source d))) (Text.width done)
        (Occurrence.ofPieces d (Text.width done + Text.width copied) pieces) =
      (Piece.texts? bodyFilling? pieces).map (copied ++ ·) := by
  induction pieces generalizing done copied with
  | nil =>
      have copy := Text.slice_between done copied []
      rw [List.append_nil] at copy
      simp [Occurrence.ofPieces, replaceSpans, Piece.texts?, Text.width_append, copy]
  | cons piece rest restIH =>
      cases piece with
      | literal c =>
          -- The character waits to be copied with the text in front of the next keyword.
          have moved := restIH done (copied ++ [c])
          simp only [Text.width_append, Text.width_cons, Text.width_nil, Nat.add_zero,
            List.append_assoc, List.cons_append, List.nil_append, ← Nat.add_assoc] at moved
          rw [Occurrence.ofPieces, Piece.texts?, Option.map_map]
          exact moved
      | keyword body =>
          have later := restIH (done ++ copied ++ body.source d) []
          simp only [Text.width_append, Text.width_nil, Nat.add_zero, List.nil_append,
            List.append_assoc, ← Nat.add_assoc, Option.map_id'] at later
          have copy := Text.slice_between done copied
            (body.source d ++ rest.flatMap (Piece.source d))
          rw [Occurrence.ofPieces, replaceSpans, same, Piece.texts?]
          cases filled : bodyFilling? body with
          | none => rfl
          | some text =>
              simp only [List.flatMap_cons, Piece.source, Occurrence.ofBody, List.append_assoc,
                copy, later, Option.bind_eq_bind, Option.bind_some]
              cases Piece.texts? bodyFilling? rest with
              | none => rfl
              | some others => simp

namespace Segment

variable (table : KeywordTable) (entries : List (String × Value))

def renderAll? (segments : List Segment) : Option (List Char) :=
  (segments.mapM (Segment.render? table entries)).map List.flatten

theorem renderAll?_cons (segment : Segment) (rest : List Segment) :
    renderAll? table entries (segment :: rest) =
      (segment.render? table entries).bind fun text =>
        (renderAll? table entries rest).map (text ++ ·) := by
  rw [renderAll?, List.mapM_cons]
  cases segment.render? table entries with
  | none => rfl
  | some text =>
      simp only [renderAll?, Option.bind_eq_bind, Option.bind_some]
      cases rest.mapM (Segment.render? table entries) <;> rfl

theorem renderAll?_pushLiteral (c : Char) (segments : List Segment) :
    renderAll? table entries (Template.pushLiteral c segments) =
      (renderAll? table entries segments).map (c :: ·) := by
  unfold Template.pushLiteral
  split
  · next text rest =>
      rw [renderAll?_cons, renderAll?_cons]
      cases renderAll? table entries rest <;> rfl
  · next segments _ =>
      rw [renderAll?_cons]
      cases renderAll? table entries segments <;> rfl

end Segment

theorem lastValue?_eq_getLast? (key : String) (entries : List (String × Value)) :
    lastValue? key entries = (entries.filter fun entry => entry.1 == key).getLast?.map (·.2) := by
  induction entries with
  | nil => rfl
  | cons entry rest restIH =>
      obtain ⟨other, value⟩ := entry
      by_cases same : other = key
      · rw [lastValue?, restIH, List.filter_cons_of_pos (by simpa using same)]
        cases later : (rest.filter fun entry => entry.1 == key).getLast? with
        | none => simp [List.getLast?_eq_none_iff.mp later, same]
        | some last => simp [List.getLast?_cons, later]
      · rw [lastValue?, restIH, List.filter_cons_of_neg (by simpa using same)]
        cases (rest.filter fun entry => entry.1 == key).getLast? <;> simp [same]

theorem lastValue?_folded (d : Delimiters) (keyword : String) (entries : List (String × Value)) :
    lastValue? keyword (entries.map fun entry => (d.foldName entry.1, entry.2)) =
      lastFolded? d keyword entries := by
  rw [lastValue?_eq_getLast?, lastFolded?, List.filter_map, List.getLast?_map, Option.map_map]
  rfl

namespace Template

variable (d : Delimiters) (registry : Registry)

def bodyFilling? (entries : List (String × Value)) (body : KeywordBody) : Option (List Char) :=
  Occurrence.filling? d registry entries (.ofBody d 0 body)

theorem filling?_ofBody (entries : List (String × Value)) (place : Nat) (body : KeywordBody) :
    Occurrence.filling? d registry entries (.ofBody d place body) =
      bodyFilling? d registry entries body := rfl

/-- A resolved chain does what its calls do one after the other. -/
theorem apply_ofCalls (calls : List ModifierCall) (value : Value) :
    (Chain.ofCalls registry calls).apply value =
      calls.foldlM (fun value call => registry.resolve call value) value := by
  rw [Chain.apply, Chain.ofCalls, List.map_map, Transform.sequence, List.foldlM_map]
  rfl

/-- A segment of a keyword renders to the filling of that keyword, in every table that keeps its
slot. -/
theorem render?_slot {table : KeywordTable} {entries : List (String × Value)} {body : KeywordBody}
    {place index : Nat}
    (kept : table.slot? place index =
      some (d.foldName (String.ofList (d.unescape body.name)), slotOf d registry body)) :
    Segment.render? table (entries.map fun entry => (d.foldName entry.1, entry.2))
        (.slot place index) = bodyFilling? d registry entries body := by
  rw [Segment.render?, kept]
  have sameName : (Occurrence.ofBody d 0 body).keyword =
      d.foldName (String.ofList (d.unescape body.name)) := rfl
  have sameChain : (Occurrence.ofBody d 0 body).chain.toList = body.chain.getD [] :=
    String.toList_ofList
  simp only [lastValue?_folded, slotOf, apply_ofCalls]
  rw [bodyFilling?, Occurrence.filling?, sameName]
  cases lastFolded? d (d.foldName (String.ofList (d.unescape body.name))) entries with
  | none => rfl
  | some value => simp only [sameChain]

theorem renderAll?_compile {final : KeywordTable} (entries : List (String × Value))
    (table : KeywordTable) (pieces : List Piece)
    (kept : (compile d registry table pieces).2.Extends final) :
    Segment.renderAll? final (entries.map fun entry => (d.foldName entry.1, entry.2))
        (compile d registry table pieces).1 =
      Piece.texts? (bodyFilling? d registry entries) pieces := by
  induction pieces generalizing table with
  | nil => rfl
  | cons piece rest restIH =>
      cases piece with
      | literal c =>
          rw [compile_literal, Segment.renderAll?_pushLiteral, restIH table kept, Piece.texts?]
      | keyword body =>
          -- The slot was added first, so the rest of the pieces has not moved it.
          have slotKept := kept _ _ _ (compile_extends d registry _ rest _ _ _
            (table.slot?_insert (d.foldName (String.ofList (d.unescape body.name)))
              (slotOf d registry body)))
          have later := restIH (table.insert (d.foldName (String.ofList (d.unescape body.name)))
            (slotOf d registry body)).1 kept
          simp only [compile_keyword, Segment.renderAll?_cons, render?_slot d registry slotKept,
            later, Piece.texts?]
          cases bodyFilling? d registry entries body with
          | none => rfl
          | some filled => cases Piece.texts? (bodyFilling? d registry entries) rest <;> rfl

theorem render?_layout (text : String) (layout : Layout) (entries : List (String × Value)) :
    render? ⟨text, some layout⟩ entries =
      (Segment.renderAll? layout.table
        (entries.map fun entry => (layout.foldKey entry.1, entry.2)) layout.segments).map
          String.ofList := by
  simp only [render?, Segment.renderAll?, Option.map_map]
  cases layout.segments.mapM (Segment.render? layout.table
    (entries.map fun entry => (layout.foldKey entry.1, entry.2))) <;> rfl

/-- A template is filled in piece by piece. -/
theorem render?_parse_pieces (template : String) (entries : List (String × Value)) :
    (parse d registry template).render? entries =
      (Piece.texts? (bodyFilling? d registry entries) (d.pieces template.toList)).map
        String.ofList := by
  by_cases missing : ∀ body, .keyword body ∉ d.pieces template.toList
  · rw [parse_of_no_keyword missing, render?, Piece.texts?_of_no_keyword (d := d) missing,
      source_pieces]
    simp
  · have rendered := renderAll?_compile d registry entries .empty (d.pieces template.toList)
      (.refl _)
    rw [parse_of_keyword missing, render?_layout, ← rendered]
    rfl

theorem render?_parse (template : String) (entries : List (String × Value)) :
    (parse d registry template).render? entries =
      (replaceSpans (Occurrence.filling? d registry entries) template.toList 0
        (d.scan template)).map String.ofList := by
  have whole := source_pieces d template.toList
  have replaced := replaceSpans_ofPieces (filling?_ofBody d registry entries) [] []
    (d.pieces template.toList)
  simp only [List.nil_append, whole, Text.width_nil, Nat.add_zero, Option.map_id'] at replaced
  rw [Delimiters.scan, replaced, render?_parse_pieces]

/-- A template is filled in by one substitution.  Its occurrences have spans that follow each other,
cut no character and hold the occurrence's source; every one of them is replaced by its own filling
and everything else is copied, so that what was filled in is not read again; and a template without
occurrences stands for itself. -/
theorem populateValues_single_pass (template : String) (values : KeywordValues) :
    (∀ occurrence ∈ d.scan template,
      Text.IsBoundary template.toList occurrence.start ∧
        Text.IsBoundary template.toList occurrence.stop ∧ occurrence.start < occurrence.stop ∧
        Text.slice occurrence.start occurrence.stop template.toList =
          occurrence.source.toList) ∧
      (d.scan template).Pairwise (fun left right => left.stop ≤ right.start) ∧
      (parse d registry template).populateValues values =
        (replaceSpans (Occurrence.filling? d registry values.entries) template.toList 0
          (d.scan template)).map String.ofList ∧
      (template = "" ∨ d.scan template = [] →
        (parse d registry template).populateValues values = some template) := by
  have rendered := render?_parse d registry template values.entries
  refine ⟨fun occurrence member => Delimiters.scan_span member,
    Occurrence.ofPieces_pairwise d 0 _, rendered, ?_⟩
  intro keywordless
  have unoccupied : d.scan template = [] := by
    rcases keywordless with rfl | unoccupied
    · rw [Delimiters.scan, String.toList_empty, Delimiters.pieces_nil, Occurrence.ofPieces]
    · exact unoccupied
  have copied := Text.slice_between [] template.toList []
  rw [List.nil_append, List.append_nil, Text.width_nil, Nat.zero_add] at copied
  rw [populateValues, rendered, unoccupied, replaceSpans, copied]
  simp

end Template

end Stencil
