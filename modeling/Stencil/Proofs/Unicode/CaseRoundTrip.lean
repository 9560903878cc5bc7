import Stencil.Proofs.Unicode.Lowercase

namespace Stencil.Unicode

/-! Capitals again after lowercasing.

Uppercasing undoes lowercasing but for a few capitals that are no image of a small letter.  The
signs of the ohm, the kelvin and the ångström, the theta symbol, the capital sharp s and the dotted
capital I stay as they are in uppercase, and from lowercase they come back as other letters.

A run of the lowercase table is mostly undone by one run of the uppercase table, so runs are
compared and not code points.
-/

namespace CaseRun

/-- What one run moves, the other moves back. -/
def UndoneBy (run back : CaseRun) : Prop :=
  back.shift = -run.shift ∧ (back.first : Int) ≤ run.first + run.shift ∧
    run.last + run.shift ≤ back.last ∧ back.step ∣ run.step ∧
    (back.step : Int) ∣ run.first + run.shift - back.first

instance (run back : CaseRun) : Decidable (run.UndoneBy back) :=
  inferInstanceAs (Decidable (_ ∧ _ ∧ _ ∧ _ ∧ _))

theorem image?_eq_some_iff {run : CaseRun} {code image : Nat} :
    run.image? code = some image ↔
      (run.first ≤ code ∧ code ≤ run.last ∧ (code - run.first) % run.step = 0) ∧
        ((code : Int) + run.shift).toNat = image := by
  rw [image?, Option.ite_none_right_eq_some, Option.some.injEq]

theorem UndoneBy.image? {run back : CaseRun} (undone : run.UndoneBy back) {code image : Nat}
    (moved : run.image? code = some image) : back.image? image = some code := by
  obtain ⟨opposite, low, high, steps, start⟩ := undone
  obtain ⟨⟨first, last, stepped⟩, rfl⟩ := image?_eq_some_iff.mp moved
  have inRun : (back.step : Int) ∣ (code - run.first : Nat) :=
    Int.natCast_dvd_natCast.mpr (Nat.dvd_trans steps (Nat.dvd_of_mod_eq_zero stepped))
  have total : (back.step : Int) ∣ (((code : Int) + run.shift).toNat - back.first : Nat) := by
    have sum := Int.dvd_add inRun start
    rwa [show ((code - run.first : Nat) : Int) + (run.first + run.shift - back.first) =
      (((code : Int) + run.shift).toNat - back.first : Nat) by omega] at sum
  rw [image?_eq_some_iff]
  exact ⟨⟨by omega, by omega, Nat.mod_eq_zero_of_dvd (Int.natCast_dvd_natCast.mp total)⟩, by omega⟩

end CaseRun

section

variable {runs : List CaseRun} {run : CaseRun} {code image : Nat}

theorem CaseRun.image?_of_beyond (beyond : run.last < code) : run.image? code = none := by
  rw [image?, if_neg]
  omega

/-- Runs one after the other share no code point, so any one that holds it gives its image. -/
theorem mapByRuns_of_image? (ascending : Ascending (runs.map fun run => (run.first, run.last)))
    (member : run ∈ runs) (moved : run.image? code = some image) :
    mapByRuns code runs = image := by
  induction runs with
  | nil => cases member
  | cons next rest restIH =>
      obtain ⟨_, apart, restAscending⟩ := ascending
      rcases List.mem_cons.mp member with rfl | inRest
      · have first := (CaseRun.image?_eq_some_iff.mp moved).1.1
        rw [mapByRuns, if_neg (Nat.not_lt.mpr first), moved, Option.getD_some]
      · have beyond : next.last < code :=
          Nat.lt_of_lt_of_le (apart _ (List.mem_map_of_mem inRest))
            (CaseRun.image?_eq_some_iff.mp moved).1.1
        rw [mapByRuns, if_neg (by omega), CaseRun.image?_of_beyond beyond, Option.getD_none,
          restIH restAscending inRest]

end

/-- The one run of the uppercase table that may undo another run. -/
def CaseRun.counterpart? (run : CaseRun) : Option CaseRun :=
  uppercaseRuns.find? fun back => (run.first + run.shift).toNat ≤ back.last

theorem upper_of_image? {c : Char} {run : CaseRun} {image : Nat} (member : run ∈ uppercaseRuns)
    (moved : run.image? c.toNat = some image) : upper c = [Char.ofNat image] := by
  have apart : bitSet (uppercaseRuns.flatMap CaseRun.codes) &&&
      bitSet (uppercaseExpansions.map (·.1)) = 0 := by
    decide +kernel
  have held : c.toNat ∈ uppercaseRuns.flatMap CaseRun.codes :=
    List.mem_flatMap.mpr ⟨run, member, (CaseRun.mem_codes_of_image? moved).1⟩
  have ascending : ascendingFrom 0 (uppercaseRuns.map fun run => (run.first, run.last)) = true := by
    decide +kernel
  rw [upper, mapCase]
  cases found : findExpansion c.toNat uppercaseExpansions with
  | some codes =>
      exact absurd (List.mem_map.mpr ⟨_, mem_of_findExpansion found, rfl⟩)
        (notMem_of_bitSet apart held)
  | none => simp only [mapByRuns_of_image? (ascendingFrom_sound ascending).2 member moved]

/-- The capitals with a small letter that leads to another capital. -/
def loneCapitals : List Char :=
  ['\u0130', '\u03F4', '\u1E9E', '\u2126', '\u212A', '\u212B']

/-- The few runs that no single run undoes are looked at letter by letter. -/
theorem undone_or_each {run : CaseRun} (member : run ∈ lowercaseRuns) :
    (∃ back ∈ run.counterpart?, run.UndoneBy back) ∨
      ∀ code ∈ run.codes, Char.ofNat code ∈ loneCapitals ∨
        uppercase (lower (Char.ofNat code)) = upper (Char.ofNat code) := by
  have each : ∀ run ∈ lowercaseRuns, (∃ back ∈ run.counterpart?, run.UndoneBy back) ∨
      ∀ code ∈ run.codes, Char.ofNat code ∈ loneCapitals ∨
        uppercase (lower (Char.ofNat code)) = upper (Char.ofNat code) := by
    decide +kernel
  exact each run member

theorem uppercase_lower {c : Char} (plain : c ∉ loneCapitals) : uppercase (lower c) = upper c := by
  have undotted : c ≠ '\u0130' := fun same => plain (same ▸ List.mem_cons_self)
  rw [lower_of_ne undotted]
  by_cases fixed : mapByRuns c.toNat lowercaseRuns = c.toNat
  · rw [fixed, Char.ofNat_toNat]
    exact List.flatMap_singleton upper c
  · obtain ⟨run, member, moved⟩ := image?_of_moved fixed
    rcases undone_or_each member with ⟨back, counterpart, undone⟩ | each
    · have valid := settled_lowercase.valid _
        (List.mem_append_left _ (mapByRuns_moved fixed).2)
      have back : upper (Char.ofNat (mapByRuns c.toNat lowercaseRuns)) = [c] := by
        rw [upper_of_image? (List.mem_of_find?_eq_some counterpart)
          (toNat_ofNat valid ▸ undone.image? moved), Char.ofNat_toNat]
      have settled : upper c = [c] := upper_of_mem_upper (back ▸ List.mem_singleton_self c)
      rw [settled, ← back]
      exact List.flatMap_singleton upper _
    · have here := each _ (CaseRun.mem_codes_of_image? moved).1
      rw [Char.ofNat_toNat, lower_of_ne undotted] at here
      exact here.resolve_left plain

theorem uppercase_cons (c : Char) (text : List Char) :
    uppercase (c :: text) = upper c ++ uppercase text :=
  rfl

/-- Both small sigmas have the same capital, so it does not matter where words end. -/
theorem uppercase_lowercaseAfter {text : List Char} (plain : ∀ c ∈ text, c ∉ loneCapitals)
    (before : List Char) : uppercase (lowercaseAfter before text) = uppercase text := by
  fun_induction lowercaseAfter before text with
  | case1 => rfl
  | case2 before rest restIH =>
      have sigmas : upper 'ς' = upper 'Σ' ∧ upper 'σ' = upper 'Σ' := by decide
      rw [uppercase_cons, uppercase_cons, restIH (List.forall_mem_cons.mp plain).2]
      split
      · rw [sigmas.1]
      · rw [sigmas.2]
  | case3 before c rest _ restIH =>
      obtain ⟨here, later⟩ := List.forall_mem_cons.mp plain
      rw [uppercase_append, uppercase_cons, uppercase_lower here, restIH later]

theorem lower_of_mem_lowercaseAfter {c : Char} {before text : List Char}
    (member : c ∈ lowercaseAfter before text) : lower c = [c] := by
  fun_induction lowercaseAfter before text with
  | case1 => cases member
  | case2 before rest restIH =>
      have sigmas : lower 'ς' = ['ς'] ∧ lower 'σ' = ['σ'] := by decide
      rcases List.mem_cons.mp member with rfl | later
      · split
        · exact sigmas.1
        · exact sigmas.2
      · exact restIH later
  | case3 before source rest _ restIH =>
      rcases List.mem_append.mp member with here | later
      · exact lower_of_mem_lower here
      · exact restIH later

/-- A lone capital is its own capital, but not its own small letter. -/
theorem images_of_lone {c : Char} (lone : c ∈ loneCapitals) : upper c = [c] ∧ lower c ≠ [c] := by
  have each : (loneCapitals.all fun c => upper c == [c] && lower c != [c]) = true := by
    decide +kernel
  simpa using List.all_eq_true.mp each c lone

/-- A lone capital is in no lowercase text and is not the image of another character. -/
theorem notMem_uppercase_lowercase {c : Char} (lone : c ∈ loneCapitals) (text : List Char) :
    c ∉ uppercase (lowercase text) := by
  have apart : bitSet (loneCapitals.map Char.toNat) &&&
      bitSet (imageCodes uppercaseRuns uppercaseExpansions) = 0 := by
    decide +kernel
  intro member
  obtain ⟨source, inLowercase, image⟩ := List.mem_flatMap.mp member
  rcases mem_mapCase image with ⟨_, rfl⟩ | ⟨code, isImage, rfl⟩
  · exact (images_of_lone lone).2 (lower_of_mem_lowercaseAfter inLowercase)
  · have held : (Char.ofNat code).toNat ∈ loneCapitals.map Char.toNat :=
      List.mem_map.mpr ⟨_, lone, rfl⟩
    rw [toNat_ofNat (settled_uppercase.valid code isImage)] at held
    exact notMem_of_bitSet apart held isImage

/-- Uppercasing undoes lowercasing just for the texts without lone capitals. -/
theorem uppercase_lowercase_iff {text : List Char} :
    uppercase (lowercase text) = uppercase text ↔ ∀ c ∈ text, c ∉ loneCapitals := by
  refine ⟨fun same c member lone => ?_, fun plain => uppercase_lowercaseAfter plain []⟩
  refine notMem_uppercase_lowercase lone text (same ▸ ?_)
  exact List.mem_flatMap.mpr ⟨c, member, (images_of_lone lone).1 ▸ List.mem_singleton_self c⟩

end Stencil.Unicode
