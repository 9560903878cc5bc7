import Stencil.Proofs.Unicode.Uppercase
import Stencil.Unicode.Alphabetic

namespace Stencil.Unicode

/-! Lowercase letters.

The lowercase image of a letter is a letter that stays as it is, with one exception: a capital I
with a dot above becomes an i and a combining dot, which is no letter.
-/

/-- The number whose bits are the code points of ranges. -/
def rangeSet : List (Nat × Nat) → Nat
  | [] => 0
  | (first, last) :: rest => ((1 <<< (last + 1 - first) - 1) <<< first) ||| rangeSet rest

theorem testBit_rangeSet {code : Nat} {ranges : List (Nat × Nat)}
    (isSet : (rangeSet ranges).testBit code = true) :
    ∃ range ∈ ranges, range.1 ≤ code ∧ code ≤ range.2 := by
  induction ranges with
  | nil => simp [rangeSet] at isSet
  | cons range rest restIH =>
      obtain ⟨first, last⟩ := range
      rw [rangeSet, Nat.testBit_or, Bool.or_eq_true] at isSet
      rcases isSet with here | later
      · rw [Nat.testBit_shiftLeft, Nat.one_shiftLeft, Nat.testBit_two_pow_sub_one,
          Bool.and_eq_true, decide_eq_true_eq, decide_eq_true_eq] at here
        exact ⟨(first, last), List.mem_cons_self, here.1, by omega⟩
      · obtain ⟨range, member, bounds⟩ := restIH later
        exact ⟨range, List.mem_cons_of_mem _ member, bounds⟩

/-- Tests in one pass whether ranges follow each other from a code point on. -/
def ascendingFrom (low : Nat) : List (Nat × Nat) → Bool
  | [] => true
  | (first, last) :: rest => low ≤ first && first ≤ last && ascendingFrom (last + 1) rest

theorem ascendingFrom_sound {low : Nat} {ranges : List (Nat × Nat)}
    (accepted : ascendingFrom low ranges = true) :
    (∀ range ∈ ranges, low ≤ range.1) ∧ Ascending ranges := by
  induction ranges generalizing low with
  | nil => exact ⟨fun range member => absurd member List.not_mem_nil, trivial⟩
  | cons range rest restIH =>
      obtain ⟨first, last⟩ := range
      rw [ascendingFrom, Bool.and_eq_true, Bool.and_eq_true, decide_eq_true_eq,
        decide_eq_true_eq] at accepted
      obtain ⟨⟨lowest, ordered⟩, later⟩ := accepted
      obtain ⟨beyond, restAscending⟩ := restIH later
      refine ⟨fun range member => ?_, ordered, fun range member => ?_, restAscending⟩
      · rcases List.mem_cons.mp member with rfl | member
        · exact lowest
        · have := beyond range member
          omega
      · have := beyond range member
        omega

theorem ascending_alphabeticRanges : Ascending alphabeticRanges := by
  have accepted : ascendingFrom 0 alphabeticRanges = true := by
    decide +kernel
  exact (ascendingFrom_sound accepted).2

theorem inRanges_of_mem_images {code : Nat}
    (member : code ∈ lowercaseRuns.flatMap CaseRun.images) :
    inRanges code alphabeticRanges = true := by
  have within : bitSet (lowercaseRuns.flatMap CaseRun.images) &&& rangeSet alphabeticRanges =
      bitSet (lowercaseRuns.flatMap CaseRun.images) := by
    decide +kernel
  have isSet := testBit_bitSet member
  rw [← within, Nat.testBit_and, Bool.and_eq_true] at isSet
  exact (inRanges_iff ascending_alphabeticRanges).mpr (testBit_rangeSet isSet.2)

theorem settled_lowercase : Settled lowercaseRuns lowercaseExpansions := by
  decide +kernel

theorem lower_of_mem_lower {c image : Char} (member : image ∈ lower c) : lower image = [image] :=
  settled_lowercase.mapCase_image member

/-- The combining dot above. -/
def dotAbove : Char := '\u0307'

theorem isAlphabetic_dotAbove : isAlphabetic dotAbove = false := by
  decide

/-- Only the dotted capital I has an image of more than one character. -/
theorem lower_of_ne {c : Char} (plain : c ≠ 'İ') :
    lower c = [Char.ofNat (mapByRuns c.toNat lowercaseRuns)] := by
  have otherCode : c.toNat ≠ 0x130 := fun same => plain (Char.toNat_inj.mp same)
  have nothing : findExpansion c.toNat lowercaseExpansions = none := by
    simp [findExpansion, lowercaseExpansions, otherCode]
  rw [lower, mapCase, nothing]

theorem isAlphabetic_of_mem_lower {c image : Char} (letter : isAlphabetic c = true)
    (plain : c ≠ 'İ') (member : image ∈ lower c) : isAlphabetic image = true := by
  rw [lower_of_ne plain, List.mem_singleton] at member
  subst member
  by_cases fixed : mapByRuns c.toNat lowercaseRuns = c.toNat
  · rwa [fixed, Char.ofNat_toNat]
  · have isImage := (mapByRuns_moved fixed).2
    have valid := settled_lowercase.valid _ (List.mem_append_left _ isImage)
    rw [isAlphabetic, toNat_ofNat valid]
    exact inRanges_of_mem_images isImage

/-- A dot comes out of a letter only if it stands above a capital I. -/
theorem dotAbove_mem_lower_iff {c : Char} (letter : isAlphabetic c = true) :
    dotAbove ∈ lower c ↔ c = 'İ' := by
  constructor
  · intro member
    by_contra plain
    have dotIsLetter := isAlphabetic_of_mem_lower letter plain member
    rw [isAlphabetic_dotAbove] at dotIsLetter
    cases dotIsLetter
  · rintro rfl
    decide

/-- Lowercasing the letters of a letter's image drops the dot and nothing else. -/
theorem lower_letters_of_lower {c : Char} (letter : isAlphabetic c = true) :
    ((lower c).filter isAlphabetic).flatMap lower = (lower c).filter (· != dotAbove) := by
  by_cases dotted : c = 'İ'
  · subst dotted
    decide
  · have settled : (lower c).flatMap lower = lower c := by
      rw [List.flatMap_congr fun image member => lower_of_mem_lower member, List.flatMap_singleton']
    rw [List.filter_eq_self.mpr fun image => isAlphabetic_of_mem_lower letter dotted, settled,
      eq_comm, List.filter_eq_self]
    intro image member
    rw [bne_iff_ne]
    rintro rfl
    exact dotted ((dotAbove_mem_lower_iff letter).mp member)

end Stencil.Unicode
