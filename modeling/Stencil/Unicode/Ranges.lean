namespace Stencil.Unicode

/-! Sets of characters given as ascending lists of inclusive code point ranges.

A search stops at the first range that begins beyond the wanted code point, so common characters
are found near the front.  On an ascending list the search is exactly membership in one of the
ranges (`inRanges_iff`).
-/

/-- Looks a code point up in an ascending list of ranges. -/
def inRanges (code : Nat) : List (Nat × Nat) → Bool
  | [] => false
  | (first, last) :: rest =>
      if code < first then false
      else if code ≤ last then true
      else inRanges code rest

/-- The ranges follow each other without overlap, each with its ends in order. -/
def Ascending : List (Nat × Nat) → Prop
  | [] => True
  | (first, last) :: rest => first ≤ last ∧ (∀ range ∈ rest, last < range.1) ∧ Ascending rest

theorem inRanges_iff {code : Nat} {ranges : List (Nat × Nat)} (ascending : Ascending ranges) :
    inRanges code ranges = true ↔ ∃ range ∈ ranges, range.1 ≤ code ∧ code ≤ range.2 := by
  induction ranges with
  | nil => simp [inRanges]
  | cons range rest restIH =>
      obtain ⟨first, last⟩ := range
      obtain ⟨_, beyond, restAscending⟩ := ascending
      by_cases before : code < first
      · simp only [inRanges, if_pos before, Bool.false_eq_true, List.mem_cons, false_iff]
        rintro ⟨found, rfl | member, lower, _⟩
        · omega
        · have := beyond found member
          omega
      · by_cases inside : code ≤ last
        · simp only [inRanges, if_neg before, if_pos inside, List.mem_cons, true_iff]
          exact ⟨(first, last), .inl rfl, by omega, inside⟩
        · simp only [inRanges, if_neg before, if_neg inside, restIH restAscending, List.mem_cons]
          constructor
          · rintro ⟨found, member, bounds⟩
            exact ⟨found, .inr member, bounds⟩
          · rintro ⟨found, rfl | member, bounds⟩
            · exact absurd bounds.2 inside
            · exact ⟨found, member, bounds⟩

end Stencil.Unicode
