import Stencil.Proofs.Template.SinglePass

namespace Stencil

/-! Templates in two parts.

A cut through no keyword changes nothing.  What begins in front of it also ends there, so that the
front part has these keywords too; and no keyword of the front part goes missing in the whole,
because the text behind a keyword has no say in it.
-/

namespace Text

/-- Of two fronts of a text the one with fewer bytes is a front of the other. -/
theorem prefix_of_width_le {front other rest left : List Char}
    (same : front ++ rest = other ++ left) (shorter : width front ≤ width other) :
    ∃ middle, other = front ++ middle := by
  rcases List.append_eq_append_iff.mp same with ⟨middle, rfl, _⟩ | ⟨middle, rfl, _⟩
  · exact ⟨middle, rfl⟩
  · cases middle with
    | nil => exact ⟨[], by simp⟩
    | cons c middle =>
        have positive := c.utf8Size_pos
        rw [width_append, width_cons] at shorter
        omega

end Text

namespace Occurrence

/-- The occurrence in a text that has so many bytes more in front. -/
def shift (bytes : Nat) (occurrence : Occurrence) : Occurrence :=
  { occurrence with start := occurrence.start + bytes, stop := occurrence.stop + bytes }

/-- The place is strictly inside none of the spans. -/
def Outside (place : Nat) (occurrences : List Occurrence) : Prop :=
  ∀ occurrence ∈ occurrences, ¬ (occurrence.start < place ∧ place < occurrence.stop)

instance (place : Nat) (occurrences : List Occurrence) : Decidable (Outside place occurrences) :=
  inferInstanceAs (Decidable (∀ occurrence ∈ occurrences, _))

variable {d : Delimiters}

theorem ofBody_shift (d : Delimiters) (place bytes : Nat) (body : KeywordBody) :
    ofBody d (place + bytes) body = (ofBody d place body).shift bytes := by
  simp only [ofBody, shift, Occurrence.mk.injEq, true_and]
  omega

theorem ofPieces_shift (d : Delimiters) (place bytes : Nat) (pieces : List Piece) :
    ofPieces d (place + bytes) pieces = (ofPieces d place pieces).map (shift bytes) := by
  induction pieces generalizing place with
  | nil => rfl
  | cons piece rest restIH =>
      cases piece with
      | literal c =>
          rw [ofPieces, ofPieces, ← restIH, Nat.add_right_comm]
      | keyword body =>
          rw [ofPieces, ofPieces, List.map_cons, ofBody_shift]
          exact congrArg (_ :: ·) (restIH _)

theorem ofPieces_append (d : Delimiters) (place : Nat) (left right : List Piece) :
    ofPieces d place (left ++ right) =
      ofPieces d place left ++
        ofPieces d (place + Text.width (left.flatMap (Piece.source d))) right := by
  induction left generalizing place with
  | nil => rfl
  | cons piece rest restIH =>
      cases piece with
      | literal c =>
          rw [List.cons_append, ofPieces, ofPieces, restIH, List.flatMap_cons, Text.width_append,
            ← Nat.add_assoc]
          rfl
      | keyword body =>
          rw [List.cons_append, ofPieces, ofPieces, restIH, List.flatMap_cons, Text.width_append,
            ← Nat.add_assoc]
          rfl

end Occurrence

namespace Delimiters

variable {d : Delimiters}

theorem pieces_append {place : Nat} {left right : List Char}
    (outside : Occurrence.Outside (place + Text.width left)
      (Occurrence.ofPieces d place (d.pieces (left ++ right)))) :
    d.pieces (left ++ right) = d.pieces left ++ d.pieces right := by
  fun_induction d.pieces left generalizing place with
  | case1 => rfl
  | case2 c rest body after found restIH =>
      obtain ⟨wellFormed, shape⟩ := keyword?_eq_some_iff.mp found
      rw [shape, List.append_assoc, pieces_source_append wellFormed] at outside ⊢
      rw [Occurrence.ofPieces, Text.width_append, ← Nat.add_assoc] at outside
      rw [List.cons_append, restIH fun occurrence member =>
        outside occurrence (List.mem_cons_of_mem _ member)]
  | case3 c rest missing restIH =>
      by_cases begins : d.Begins (c :: (rest ++ right))
      · -- A keyword that begins here ends in front of the cut, so the front part would have it.
        obtain ⟨body, after, wellFormed, shape⟩ := begins
        rw [List.cons_append, shape, pieces_source_append wellFormed, Occurrence.ofPieces]
          at outside
        have within := outside _ List.mem_cons_self
        have positive := c.utf8Size_pos
        simp only [Occurrence.ofBody, Text.width_cons] at within
        have shorter : Text.width (body.source d) ≤ Text.width (c :: rest) := by
          rw [Text.width_cons]
          omega
        obtain ⟨middle, front⟩ := Text.prefix_of_width_le shape.symm shorter
        rw [front, keyword?_source_append wellFormed] at missing
        contradiction
      · rw [List.cons_append, pieces_literal begins, List.cons_append] at *
        rw [Occurrence.ofPieces, Text.width_cons, ← Nat.add_assoc] at outside
        rw [restIH outside]

theorem scan_append {left right : List Char}
    (outside : Occurrence.Outside (Text.width left) (d.scan (String.ofList (left ++ right)))) :
    d.scan (String.ofList (left ++ right)) =
      d.scan (String.ofList left) ++
        (d.scan (String.ofList right)).map (Occurrence.shift (Text.width left)) := by
  simp only [scan, String.toList_ofList] at outside ⊢
  rw [← Nat.zero_add (Text.width left)] at outside
  rw [pieces_append outside, Occurrence.ofPieces_append, source_pieces, Occurrence.ofPieces_shift]

end Delimiters

theorem Piece.texts?_append (filling? : KeywordBody → Option (List Char))
    (left right : List Piece) :
    texts? filling? (left ++ right) =
      (texts? filling? left).bind fun front => (texts? filling? right).map (front ++ ·) := by
  induction left with
  | nil =>
      rw [List.nil_append, texts?]
      cases texts? filling? right <;> rfl
  | cons piece rest restIH =>
      cases piece with
      | literal c =>
          rw [List.cons_append, texts?, restIH, texts?]
          cases texts? filling? rest <;> cases texts? filling? right <;> rfl
      | keyword body =>
          rw [List.cons_append, texts?, restIH, texts?]
          cases filling? body <;> cases texts? filling? rest <;> cases texts? filling? right <;>
            simp

namespace Template

variable (d : Delimiters) (registry : Registry)

theorem populateValues_append {left right : List Char} (values : KeywordValues)
    (outside : Occurrence.Outside (Text.width left) (d.scan (String.ofList (left ++ right)))) :
    (parse d registry (String.ofList (left ++ right))).populateValues values =
      ((parse d registry (String.ofList left)).populateValues values).bind fun front =>
        ((parse d registry (String.ofList right)).populateValues values).map (front ++ ·) := by
  rw [Delimiters.scan, String.toList_ofList, ← Nat.zero_add (Text.width left)] at outside
  have pieces := Delimiters.pieces_append outside
  simp only [populateValues, render?_parse_pieces, String.toList_ofList, pieces,
    Piece.texts?_append]
  cases Piece.texts? (bodyFilling? d registry values.entries) (d.pieces left) with
  | none => rfl
  | some front =>
      cases Piece.texts? (bodyFilling? d registry values.entries) (d.pieces right) with
      | none => rfl
      | some back => simp

/-- A template may be cut wherever the cut goes through no keyword: the keywords of the whole are
those of the front part and then those of the back part, moved behind the front part, and filling in
the whole is filling in the parts. -/
theorem cut_outside_occurrences (template : String) (values : KeywordValues) {place : Nat}
    (boundary : Text.IsBoundary template.toList place)
    (outside : Occurrence.Outside place (d.scan template)) :
    let front := String.ofList (Text.takeBytes place template.toList)
    let back := String.ofList (Text.dropBytes place template.toList)
    d.scan template = d.scan front ++ (d.scan back).map (Occurrence.shift place) ∧
      (parse d registry template).populateValues values =
        ((parse d registry front).populateValues values).bind fun filledFront =>
          ((parse d registry back).populateValues values).map (filledFront ++ ·) := by
  obtain ⟨before, after, shape, rfl⟩ := boundary
  obtain rfl : template = String.ofList (before ++ after) := by
    rw [← shape, String.ofList_toList]
  simp only [String.toList_ofList, Text.takeBytes_width_append, Text.dropBytes_width_append]
  exact ⟨Delimiters.scan_append outside, populateValues_append d registry values outside⟩

/-- A cut behind a delimiter that opens nothing and directly in front of a keyword. -/
theorem cut_before_keyword :
    let registry := Registry.empty.register "trim" (Modifier.text Unicode.trim)
    let values := KeywordValues.empty.set "a" (.string " x ")
    Text.IsBoundary "\x7bé \x7bA^trim\x7d!".toList 4 ∧
      Occurrence.Outside 4 (Delimiters.standard.scan "\x7bé \x7bA^trim\x7d!") ∧
      Delimiters.standard.scan "\x7bé \x7bA^trim\x7d!" =
        Delimiters.standard.scan "\x7bé " ++
          (Delimiters.standard.scan "\x7bA^trim\x7d!").map (Occurrence.shift 4) ∧
      (parse .standard registry "\x7bé \x7bA^trim\x7d!").populateValues values =
        ((parse .standard registry "\x7bé ").populateValues values).bind fun filledFront =>
          ((parse .standard registry "\x7bA^trim\x7d!").populateValues values).map
            (filledFront ++ ·) := by
  intro registry values
  have boundary : Text.IsBoundary "\x7bé \x7bA^trim\x7d!".toList 4 :=
    ⟨"\x7bé ".toList, "\x7bA^trim\x7d!".toList, by decide, by decide⟩
  have outside : Occurrence.Outside 4 (Delimiters.standard.scan "\x7bé \x7bA^trim\x7d!") := by
    decide +kernel
  have front : String.ofList (Text.takeBytes 4 "\x7bé \x7bA^trim\x7d!".toList) = "\x7bé " := by
    decide
  have back : String.ofList (Text.dropBytes 4 "\x7bé \x7bA^trim\x7d!".toList) =
      "\x7bA^trim\x7d!" := by
    decide
  have parts := cut_outside_occurrences .standard registry "\x7bé \x7bA^trim\x7d!" values boundary
    outside
  rw [front, back] at parts
  exact ⟨boundary, outside, parts⟩

end Template

end Stencil
