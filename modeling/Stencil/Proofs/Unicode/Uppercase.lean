import Mathlib.Data.List.Basic
import Stencil.Unicode.Casing

namespace Stencil.Unicode

/-! Uppercase texts.

The image of a character consists of characters that the table does not move, so a text in uppercase
stays as it is.  That no image is moved again is a comparison of two finite sets of code points,
which are compared as the bits of two numbers.
-/

/-- The number whose bits are the given code points. -/
def bitSet : List Nat → Nat
  | [] => 0
  | code :: rest => (1 <<< code) ||| bitSet rest

theorem testBit_bitSet {code : Nat} {codes : List Nat} (member : code ∈ codes) :
    (bitSet codes).testBit code = true := by
  induction codes with
  | nil => cases member
  | cons first rest restIH =>
      rw [bitSet, Nat.testBit_or, Bool.or_eq_true]
      rcases List.mem_cons.mp member with rfl | later
      · exact .inl (by simp [Nat.testBit_shiftLeft])
      · exact .inr (restIH later)

theorem notMem_of_bitSet {left right : List Nat} (apart : bitSet left &&& bitSet right = 0)
    {code : Nat} (member : code ∈ left) : code ∉ right := by
  intro shared
  have both : (bitSet left &&& bitSet right).testBit code = true := by
    rw [Nat.testBit_and, testBit_bitSet member, testBit_bitSet shared]
    rfl
  rw [apart, Nat.zero_testBit] at both
  cases both

namespace CaseRun

/-- The code points that a run holds. -/
def codes (run : CaseRun) : List Nat :=
  (List.range ((run.last - run.first) / run.step + 1)).map (run.first + run.step * ·)

def images (run : CaseRun) : List Nat :=
  run.codes.map fun (code : Nat) => ((code : Int) + run.shift).toNat

theorem mem_codes_of_image? {run : CaseRun} {code image : Nat}
    (found : run.image? code = some image) :
    code ∈ run.codes ∧ image ∈ run.images := by
  rw [image?] at found
  split at found
  · next held =>
      obtain ⟨low, high, stepped⟩ := held
      have place : run.first + run.step * ((code - run.first) / run.step) = code := by
        have whole := Nat.div_add_mod (code - run.first) run.step
        omega
      have bound : (code - run.first) / run.step ≤ (run.last - run.first) / run.step :=
        Nat.div_le_div_right (by omega)
      have member : code ∈ run.codes :=
        List.mem_map.mpr ⟨_, List.mem_range.mpr (Nat.lt_succ_of_le bound), place⟩
      exact ⟨member, List.mem_map.mpr ⟨code, member, Option.some.inj found⟩⟩
  · cases found

end CaseRun

section

variable {runs : List CaseRun} {expansions : List (Nat × List Nat)}

/-- The code points that two tables move. -/
def movedCodes (runs : List CaseRun) (expansions : List (Nat × List Nat)) : List Nat :=
  runs.flatMap CaseRun.codes ++ expansions.map (·.1)

/-- The code points to which two tables move others. -/
def imageCodes (runs : List CaseRun) (expansions : List (Nat × List Nat)) : List Nat :=
  runs.flatMap CaseRun.images ++ expansions.flatMap (·.2)

/-- A code point that is moved is moved by one of the runs. -/
theorem image?_of_moved {code : Nat} (moved : mapByRuns code runs ≠ code) :
    ∃ run ∈ runs, run.image? code = some (mapByRuns code runs) := by
  induction runs with
  | nil => exact absurd rfl moved
  | cons run rest restIH =>
      rw [mapByRuns] at moved ⊢
      split at moved
      · exact absurd rfl moved
      · next reached =>
          rw [if_neg reached]
          cases found : run.image? code with
          | some image => exact ⟨run, List.mem_cons_self, found⟩
          | none =>
              rw [found, Option.getD_none] at moved
              obtain ⟨other, member, same⟩ := restIH moved
              exact ⟨other, List.mem_cons_of_mem _ member, same⟩

theorem mapByRuns_moved {code : Nat} (moved : mapByRuns code runs ≠ code) :
    code ∈ runs.flatMap CaseRun.codes ∧ mapByRuns code runs ∈ runs.flatMap CaseRun.images := by
  obtain ⟨run, member, found⟩ := image?_of_moved moved
  obtain ⟨held, isImage⟩ := CaseRun.mem_codes_of_image? found
  exact ⟨List.mem_flatMap.mpr ⟨run, member, held⟩, List.mem_flatMap.mpr ⟨run, member, isImage⟩⟩

theorem mem_of_findExpansion {code : Nat} {image : List Nat}
    (found : findExpansion code expansions = some image) : (code, image) ∈ expansions := by
  induction expansions with
  | nil => cases found
  | cons expansion rest restIH =>
      obtain ⟨source, sourceImage⟩ := expansion
      rw [findExpansion] at found
      split at found
      · cases found
      · split at found
        · next same =>
            cases found
            exact same ▸ List.mem_cons_self
        · exact List.mem_cons_of_mem _ (restIH found)

theorem mapCase_of_notMem {c : Char} (unmoved : c.toNat ∉ movedCodes runs expansions) :
    mapCase runs expansions c = [c] := by
  rw [movedCodes, List.mem_append, not_or] at unmoved
  rw [mapCase]
  cases found : findExpansion c.toNat expansions with
  | some image =>
      exact absurd (List.mem_map.mpr ⟨_, mem_of_findExpansion found, rfl⟩) unmoved.2
  | none =>
      have fixed : mapByRuns c.toNat runs = c.toNat := by
        by_contra moved
        exact unmoved.1 (mapByRuns_moved moved).1
      simp only [fixed, Char.ofNat_toNat]

theorem mem_mapCase {c image : Char} (member : image ∈ mapCase runs expansions c) :
    mapCase runs expansions c = [image] ∧ image = c ∨
      ∃ code ∈ imageCodes runs expansions, image = Char.ofNat code := by
  rw [mapCase] at member ⊢
  cases found : findExpansion c.toNat expansions with
  | some codes =>
      simp only [found] at member
      obtain ⟨code, inCodes, rfl⟩ := List.mem_map.mp member
      exact .inr ⟨code, List.mem_append_right _
        (List.mem_flatMap.mpr ⟨_, mem_of_findExpansion found, inCodes⟩), rfl⟩
  | none =>
      simp only [found, List.mem_singleton] at member
      subst member
      by_cases fixed : mapByRuns c.toNat runs = c.toNat
      · exact .inl ⟨rfl, by rw [fixed, Char.ofNat_toNat]⟩
      · exact .inr ⟨_, List.mem_append_left _ (mapByRuns_moved fixed).2, rfl⟩

theorem toNat_ofNat {code : Nat} (valid : code.isValidChar) : (Char.ofNat code).toNat = code := by
  rw [Char.ofNat, dif_pos valid]
  rfl

/-- Two tables lead to characters only, and to none that they move again. -/
structure Settled (runs : List CaseRun) (expansions : List (Nat × List Nat)) : Prop where
  valid : ∀ code ∈ imageCodes runs expansions, code.isValidChar
  apart : bitSet (imageCodes runs expansions) &&& bitSet (movedCodes runs expansions) = 0

instance : Decidable (Settled runs expansions) :=
  decidable_of_iff (_ ∧ _)
    ⟨fun ⟨valid, apart⟩ => ⟨valid, apart⟩, fun ⟨valid, apart⟩ => ⟨valid, apart⟩⟩

theorem Settled.mapCase_image (settled : Settled runs expansions) {c image : Char}
    (member : image ∈ mapCase runs expansions c) : mapCase runs expansions image = [image] := by
  rcases mem_mapCase member with ⟨alone, rfl⟩ | ⟨code, inImages, rfl⟩
  · exact alone
  · apply mapCase_of_notMem
    rw [toNat_ofNat (settled.valid code inImages)]
    exact notMem_of_bitSet settled.apart inImages

end

theorem settled_uppercase : Settled uppercaseRuns uppercaseExpansions := by
  decide +kernel

theorem upper_of_mem_upper {c image : Char} (member : image ∈ upper c) :
    upper image = [image] :=
  settled_uppercase.mapCase_image member

theorem uppercase_uppercase (text : List Char) : uppercase (uppercase text) = uppercase text := by
  have settled (c : Char) : (upper c).flatMap upper = upper c := by
    rw [List.flatMap_congr fun image member => upper_of_mem_upper member, List.flatMap_singleton']
  rw [uppercase, uppercase, List.flatMap_assoc]
  exact List.flatMap_congr fun c _ => settled c

end Stencil.Unicode
