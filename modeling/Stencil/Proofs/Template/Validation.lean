import Stencil.Proofs.Data.Outcomes
import Stencil.Proofs.Template.EscapeUnits

namespace Stencil

open Unicode

/-! Which settings are accepted as delimiters.

Settings are accepted if each has its shape, one or two characters that may delimit, and if no
character is given a second role.  The problems that settings can have are ranked, and the one of the
lowest rank is reported.
-/

def MayDelimit (c : Char) : Prop :=
  isAlphanumeric c = false ∧ isWhiteSpace c = false ∧ c ≠ '_' ∧ c ≠ '-' ∧ c ≠ '\\'

/-- As many characters as one of the sizes says, all of which may delimit. -/
def OfShape (sizes : List Nat) (text : List Char) : Prop :=
  text.length ∈ sizes ∧ ∀ c ∈ text, MayDelimit c

def brackets : List (Char × Char) :=
  [('\x7b', '\x7d'), ('(', ')'), ('[', ']'), ('<', '>')]

/-- The characters that a keyword setting stands for. -/
inductive Encloses : List Char → Char → Char → Prop where
  | mirrored {c opening closing : Char} :
      (opening, closing) ∈ brackets → c = opening ∨ c = closing → Encloses [c] opening closing
  | doubled {c : Char} : (∀ pair ∈ brackets, c ≠ pair.1 ∧ c ≠ pair.2) → Encloses [c] c c
  | given {opening closing : Char} : Encloses [opening, closing] opening closing

namespace DelimiterSettings

variable (settings : DelimiterSettings)

/-- The settings give these characters their roles. -/
structure Roles (opening closing modifier parameter : Char) : Prop where
  keyword_shape : OfShape [1, 2] settings.keyword.toList
  modifier_shape : OfShape [1] settings.modifier.toList
  parameter_shape : OfShape [1] settings.parameter.toList
  encloses : Encloses settings.keyword.toList opening closing
  modifier_eq : settings.modifier.toList = [modifier]
  parameter_eq : settings.parameter.toList = [parameter]
  modifier_free : modifier ∉ [opening, closing]
  parameter_free : parameter ∉ [opening, closing, modifier]

/-- What can be wrong with settings, with the rank of the check and the setting to blame. -/
inductive Problem : Nat → DelimiterSetting → Prop where
  | keywordShape : ¬ OfShape [1, 2] settings.keyword.toList → Problem 0 .keyword
  | modifierShape : ¬ OfShape [1] settings.modifier.toList → Problem 1 .modifier
  | parameterShape : ¬ OfShape [1] settings.parameter.toList → Problem 2 .parameter
  | modifierTaken {opening closing modifier : Char} :
      Encloses settings.keyword.toList opening closing →
        settings.modifier.toList = [modifier] → modifier ∈ [opening, closing] →
          Problem 3 .modifier
  | parameterTaken {opening closing modifier parameter : Char} :
      Encloses settings.keyword.toList opening closing →
        settings.modifier.toList = [modifier] → settings.parameter.toList = [parameter] →
          parameter ∈ [opening, closing, modifier] → Problem 4 .parameter

def PassesBelow (rank : Nat) : Prop :=
  ∀ earlier < rank, ∀ other, ¬ settings.Problem earlier other

def FirstProblem (setting : DelimiterSetting) : Prop :=
  ∃ rank, settings.Problem rank setting ∧ settings.PassesBelow rank

end DelimiterSettings

theorem checkDelimiterChar_eq_ok_iff {setting : DelimiterSetting} {c : Char} {done : Unit} :
    checkDelimiterChar setting c = .ok done ↔ MayDelimit c := by
  have allowed : MayDelimit c ↔ isDelimiterChar c = true := isDelimiterChar_iff.symm
  rw [allowed, checkDelimiterChar]
  by_cases reserved : isReserved c = true
  · simp [isDelimiterChar, reserved]
  · rw [if_neg reserved]
    by_cases backslash : c = '\\'
    · simp [isDelimiterChar, backslash]
    · simp [isDelimiterChar, reserved, backslash]

theorem setting_of_checkDelimiterChar {setting : DelimiterSetting} {c : Char}
    {fault : DelimiterFault} (refused : checkDelimiterChar setting c = .error fault) :
    fault.setting = setting := by
  unfold checkDelimiterChar at refused
  split at refused
  · cases refused
    rfl
  · split at refused
    · cases refused
      rfl
    · contradiction

theorem bracketPair?_eq_some_iff {c : Char} {pair : Char × Char} :
    bracketPair? c = some pair ↔ pair ∈ brackets ∧ (c = pair.1 ∨ c = pair.2) := by
  constructor
  · intro found
    unfold bracketPair? at found
    split at found
    case h_9 => contradiction
    all_goals
      cases found
      decide
  · rintro ⟨member, side⟩
    simp only [brackets, List.mem_cons, List.not_mem_nil, or_false] at member
    rcases member with rfl | rfl | rfl | rfl <;> rcases side with rfl | rfl <;> rfl

theorem bracketPair?_eq_none_iff {c : Char} :
    bracketPair? c = none ↔ ∀ pair ∈ brackets, c ≠ pair.1 ∧ c ≠ pair.2 := by
  rw [Option.eq_none_iff_forall_ne_some]
  simp only [ne_eq, bracketPair?_eq_some_iff, not_and, not_or]

theorem encloses_single_iff {c opening closing : Char} :
    Encloses [c] opening closing ↔ (bracketPair? c).getD (c, c) = (opening, closing) := by
  constructor
  · intro encloses
    cases encloses with
    | mirrored member side =>
        rw [bracketPair?_eq_some_iff.mpr ⟨member, side⟩, Option.getD_some]
    | doubled plain => rw [bracketPair?_eq_none_iff.mpr plain, Option.getD_none]
  · intro same
    cases found : bracketPair? c with
    | none =>
        rw [found] at same
        cases same
        exact .doubled (bracketPair?_eq_none_iff.mp found)
    | some pair =>
        rw [found] at same
        cases same
        obtain ⟨member, side⟩ := bracketPair?_eq_some_iff.mp found
        exact .mirrored member side

theorem encloses_pair_iff {first second opening closing : Char} :
    Encloses [first, second] opening closing ↔ first = opening ∧ second = closing := by
  constructor
  · intro encloses
    cases encloses
    exact ⟨rfl, rfl⟩
  · rintro ⟨rfl, rfl⟩
    exact .given

theorem Encloses.unique {text : List Char} {opening closing otherOpening otherClosing : Char}
    (encloses : Encloses text opening closing)
    (others : Encloses text otherOpening otherClosing) :
    opening = otherOpening ∧ closing = otherClosing := by
  match text with
  | [c] =>
      have same := (encloses_single_iff.mp encloses).symm.trans (encloses_single_iff.mp others)
      exact Prod.mk.inj same
  | [first, second] =>
      obtain ⟨rfl, rfl⟩ := encloses_pair_iff.mp encloses
      exact encloses_pair_iff.mp others
  | [] | _ :: _ :: _ :: _ => cases encloses

theorem exists_encloses {text : List Char} (shaped : OfShape [1, 2] text) :
    ∃ opening closing, Encloses text opening closing := by
  obtain ⟨size, _⟩ := shaped
  match text, size with
  | [c], _ => exact ⟨_, _, encloses_single_iff.mpr rfl⟩
  | [opening, closing], _ => exact ⟨opening, closing, .given⟩

theorem ofShape_one_iff {text : List Char} :
    OfShape [1] text ↔ ∃ c, text = [c] ∧ MayDelimit c := by
  constructor
  · rintro ⟨size, allowed⟩
    obtain ⟨c, rfl⟩ := List.length_eq_one_iff.mp (List.mem_singleton.mp size)
    exact ⟨c, rfl, allowed c List.mem_cons_self⟩
  · rintro ⟨c, rfl, allowed⟩
    exact ⟨List.mem_cons_self, List.forall_mem_singleton.mpr allowed⟩

theorem singleDelimiter_eq_ok_iff {setting : DelimiterSetting} {value : String} {c : Char} :
    singleDelimiter setting value = .ok c ↔ OfShape [1] value.toList ∧ value.toList = [c] := by
  unfold singleDelimiter
  split
  · next only shape =>
      have kept : pure only = (.ok c : Except DelimiterFault Char) ↔ only = c := by
        simp [pure, Except.pure]
      simp only [bind_eq_ok_iff, checkDelimiterChar_eq_ok_iff, kept, shape, OfShape]
      simp
  · next many =>
      constructor
      · intro accepted
        contradiction
      · rintro ⟨_, shape⟩
        exact absurd shape (many c)

theorem singleDelimiter_eq_error {setting : DelimiterSetting} {value : String}
    {fault : DelimiterFault} (refused : singleDelimiter setting value = .error fault) :
    ¬ OfShape [1] value.toList ∧ fault.setting = setting := by
  constructor
  · intro shaped
    obtain ⟨c, single, _⟩ := ofShape_one_iff.mp shaped
    have accepted : singleDelimiter setting value = .ok c :=
      singleDelimiter_eq_ok_iff.mpr ⟨shaped, single⟩
    cases refused.symm.trans accepted
  · unfold singleDelimiter at refused
    split at refused
    · rcases bind_eq_error_iff.mp refused with here | ⟨_, _, later⟩
      · exact setting_of_checkDelimiterChar here
      · contradiction
    · cases refused
      rfl

theorem keywordPair_eq_ok_iff {value : String} {opening closing : Char} :
    keywordPair value = .ok (opening, closing) ↔
      OfShape [1, 2] value.toList ∧ Encloses value.toList opening closing := by
  unfold keywordPair
  split
  · next c shape =>
      simp only [bind_eq_ok_iff, checkDelimiterChar_eq_ok_iff, shape, OfShape,
        encloses_single_iff]
      simp [pure, Except.pure]
  · next first second shape =>
      simp only [bind_eq_ok_iff, checkDelimiterChar_eq_ok_iff, shape, OfShape, encloses_pair_iff]
      simp [pure, Except.pure, and_assoc]
  · next notOne notTwo =>
      constructor
      · intro accepted
        contradiction
      · rintro ⟨_, encloses⟩
        generalize value.toList = text at encloses notOne notTwo
        cases encloses with
        | mirrored => exact absurd rfl (notOne _)
        | doubled => exact absurd rfl (notOne _)
        | given => exact absurd rfl (notTwo _ _)

theorem keywordPair_eq_error {value : String} {fault : DelimiterFault}
    (refused : keywordPair value = .error fault) :
    ¬ OfShape [1, 2] value.toList ∧ fault.setting = .keyword := by
  constructor
  · intro shaped
    obtain ⟨opening, closing, encloses⟩ := exists_encloses shaped
    cases refused.symm.trans (keywordPair_eq_ok_iff.mpr ⟨shaped, encloses⟩)
  · unfold keywordPair at refused
    split at refused
    · rcases bind_eq_error_iff.mp refused with here | ⟨_, _, later⟩
      · exact setting_of_checkDelimiterChar here
      · contradiction
    · rcases bind_eq_error_iff.mp refused with here | ⟨_, _, later⟩
      · exact setting_of_checkDelimiterChar here
      · rcases bind_eq_error_iff.mp later with here | ⟨_, _, last⟩
        · exact setting_of_checkDelimiterChar here
        · contradiction
    · cases refused
      rfl

namespace DelimiterSettings

variable {settings : DelimiterSettings} {opening closing modifier parameter : Char}

theorem Roles.no_problem (roles : settings.Roles opening closing modifier parameter) {rank : Nat}
    {setting : DelimiterSetting} : ¬ settings.Problem rank setting := by
  intro problem
  cases problem with
  | keywordShape misshapen => exact misshapen roles.keyword_shape
  | modifierShape misshapen => exact misshapen roles.modifier_shape
  | parameterShape misshapen => exact misshapen roles.parameter_shape
  | modifierTaken encloses single taken =>
      obtain ⟨rfl, rfl⟩ := roles.encloses.unique encloses
      obtain rfl := List.singleton_inj.mp (roles.modifier_eq.symm.trans single)
      exact roles.modifier_free taken
  | parameterTaken encloses modifierSingle single taken =>
      obtain ⟨rfl, rfl⟩ := roles.encloses.unique encloses
      obtain rfl := List.singleton_inj.mp (roles.modifier_eq.symm.trans modifierSingle)
      obtain rfl := List.singleton_inj.mp (roles.parameter_eq.symm.trans single)
      exact roles.parameter_free taken

theorem passesBelow_zero : settings.PassesBelow 0 :=
  fun _ lower => absurd lower (Nat.not_lt_zero _)

theorem PassesBelow.succ {rank : Nat} (below : settings.PassesBelow rank)
    (here : ∀ other, ¬ settings.Problem rank other) : settings.PassesBelow (rank + 1) := by
  intro earlier lower other problem
  rcases Nat.lt_succ_iff_lt_or_eq.mp lower with lower | rfl
  · exact below earlier lower other problem
  · exact here other problem

theorem passesBelow_one (shaped : OfShape [1, 2] settings.keyword.toList) :
    settings.PassesBelow 1 := by
  refine passesBelow_zero.succ fun other problem => ?_
  cases problem with
  | keywordShape misshapen => exact misshapen shaped

theorem PassesBelow.two (below : settings.PassesBelow 1)
    (shaped : OfShape [1] settings.modifier.toList) : settings.PassesBelow 2 := by
  refine below.succ fun other problem => ?_
  cases problem with
  | modifierShape misshapen => exact misshapen shaped

theorem PassesBelow.three (below : settings.PassesBelow 2)
    (shaped : OfShape [1] settings.parameter.toList) : settings.PassesBelow 3 := by
  refine below.succ fun other problem => ?_
  cases problem with
  | parameterShape misshapen => exact misshapen shaped

theorem PassesBelow.four (below : settings.PassesBelow 3)
    (encloses : Encloses settings.keyword.toList opening closing)
    (single : settings.modifier.toList = [modifier]) (free : modifier ∉ [opening, closing]) :
    settings.PassesBelow 4 := by
  refine below.succ fun other problem => ?_
  cases problem with
  | modifierTaken others otherSingle taken =>
      obtain ⟨rfl, rfl⟩ := encloses.unique others
      obtain rfl := List.singleton_inj.mp (single.symm.trans otherSingle)
      exact free taken

/-- The checks run in the order of their ranks: settings are accepted with their roles, or the
problem found has none below it. -/
theorem validate_outcome (settings : DelimiterSettings) :
    (∃ d, settings.validate = .ok d ∧
      settings.Roles d.opening d.closing d.modifier d.parameter ∧
        d.caseSensitive = settings.caseSensitive) ∨
      ∃ fault, settings.validate = .error fault ∧ settings.FirstProblem fault.setting := by
  unfold validate
  split
  · next fault refused =>
      obtain ⟨misshapen, named⟩ := keywordPair_eq_error refused
      exact .inr ⟨fault, rfl, 0, named ▸ .keywordShape misshapen, passesBelow_zero⟩
  next opening closing pairOk =>
  obtain ⟨keywordShape, encloses⟩ := keywordPair_eq_ok_iff.mp pairOk
  have keywordPasses := passesBelow_one keywordShape
  split
  · next fault refused =>
      obtain ⟨misshapen, named⟩ := singleDelimiter_eq_error refused
      exact .inr ⟨fault, rfl, 1, named ▸ .modifierShape misshapen, keywordPasses⟩
  next modifier modifierOk =>
  obtain ⟨modifierShape, modifierSingle⟩ := singleDelimiter_eq_ok_iff.mp modifierOk
  have modifierPasses := keywordPasses.two modifierShape
  split
  · next fault refused =>
      obtain ⟨misshapen, named⟩ := singleDelimiter_eq_error refused
      exact .inr ⟨fault, rfl, 2, named ▸ .parameterShape misshapen, modifierPasses⟩
  next parameter parameterOk =>
  obtain ⟨parameterShape, parameterSingle⟩ := singleDelimiter_eq_ok_iff.mp parameterOk
  have shapesPass := modifierPasses.three parameterShape
  have modifierFree : modifier ≠ opening ∧ modifier ≠ closing ↔
      modifier ∉ [opening, closing] := by simp
  have parameterFree : parameter ≠ opening ∧ parameter ≠ closing ∧ parameter ≠ modifier ↔
      parameter ∉ [opening, closing, modifier] := by simp
  split
  · next free =>
      rw [modifierFree] at free
      split
      · next alsoFree =>
          rw [parameterFree] at alsoFree
          exact .inl ⟨_, rfl, ⟨keywordShape, modifierShape, parameterShape, encloses,
            modifierSingle, parameterSingle, free, alsoFree⟩, rfl⟩
      · next taken =>
          rw [parameterFree, not_not] at taken
          exact .inr ⟨_, rfl, 4, .parameterTaken encloses modifierSingle parameterSingle taken,
            shapesPass.four encloses modifierSingle free⟩
  · next taken =>
      rw [modifierFree, not_not] at taken
      exact .inr ⟨_, rfl, 3, .modifierTaken encloses modifierSingle taken, shapesPass⟩

theorem Roles.unique {otherOpening otherClosing otherModifier otherParameter : Char}
    (roles : settings.Roles opening closing modifier parameter)
    (others : settings.Roles otherOpening otherClosing otherModifier otherParameter) :
    opening = otherOpening ∧ closing = otherClosing ∧ modifier = otherModifier ∧
      parameter = otherParameter := by
  obtain ⟨sameOpening, sameClosing⟩ := roles.encloses.unique others.encloses
  have sameModifier := roles.modifier_eq.symm.trans others.modifier_eq
  have sameParameter := roles.parameter_eq.symm.trans others.parameter_eq
  exact ⟨sameOpening, sameClosing, List.singleton_inj.mp sameModifier,
    List.singleton_inj.mp sameParameter⟩

theorem exists_validate_iff :
    (∃ d, settings.validate = .ok d) ↔
      ∃ opening closing modifier parameter,
        settings.Roles opening closing modifier parameter := by
  constructor
  · rintro ⟨d, accepted⟩
    rcases validate_outcome settings with ⟨_, _, roles, _⟩ | ⟨fault, refused, _⟩
    · exact ⟨_, _, _, _, roles⟩
    · cases accepted.symm.trans refused
  · rintro ⟨opening, closing, modifier, parameter, roles⟩
    rcases validate_outcome settings with ⟨d, accepted, _⟩ | ⟨_, _, rank, problem, _⟩
    · exact ⟨d, accepted⟩
    · exact absurd problem roles.no_problem

theorem validate_eq_ok_iff {d : Delimiters} :
    settings.validate = .ok d ↔
      settings.Roles d.opening d.closing d.modifier d.parameter ∧
        d.caseSensitive = settings.caseSensitive := by
  constructor
  · intro accepted
    rcases validate_outcome settings with ⟨other, otherAccepted, both⟩ | ⟨fault, refused, _⟩
    · cases accepted.symm.trans otherAccepted
      exact both
    · cases accepted.symm.trans refused
  · rintro ⟨roles, caseSensitive⟩
    rcases validate_outcome settings with
      ⟨other, accepted, otherRoles, otherCase⟩ | ⟨_, _, rank, problem, _⟩
    · obtain ⟨opening, closing, modifier, parameter⟩ := otherRoles.unique roles
      rw [accepted]
      cases d
      cases other
      simp_all
    · exact absurd problem roles.no_problem

theorem FirstProblem.unique {left right : DelimiterSetting} (isFirst : settings.FirstProblem left)
    (alsoFirst : settings.FirstProblem right) : left = right := by
  obtain ⟨rank, problem, below⟩ := isFirst
  obtain ⟨otherRank, other, otherBelow⟩ := alsoFirst
  rcases Nat.lt_trichotomy rank otherRank with lower | rfl | lower
  · exact absurd problem (otherBelow rank lower left)
  · cases problem <;> cases other <;> rfl
  · exact absurd other (below otherRank lower right)

theorem validate_eq_error_iff {setting : DelimiterSetting} :
    (∃ fault, settings.validate = .error fault ∧ fault.setting = setting) ↔
      settings.FirstProblem setting := by
  constructor
  · rintro ⟨fault, refused, rfl⟩
    rcases validate_outcome settings with ⟨d, accepted, _⟩ | ⟨other, otherRefused, isFirst⟩
    · cases refused.symm.trans accepted
    · cases refused.symm.trans otherRefused
      exact isFirst
  · intro isFirst
    rcases validate_outcome settings with ⟨d, _, roles, _⟩ | ⟨fault, refused, alsoFirst⟩
    · obtain ⟨rank, problem, _⟩ := isFirst
      exact absurd problem roles.no_problem
    · exact ⟨fault, refused, alsoFirst.unique isFirst⟩

/-- Settings are accepted just if they give four characters their roles, and then these are the
delimiters.  Otherwise the setting to blame is that of the first problem. -/
theorem validate_accepts_exactly (settings : DelimiterSettings) :
    ((∃ d, settings.validate = .ok d) ↔
      ∃ opening closing modifier parameter,
        settings.Roles opening closing modifier parameter) ∧
    (∀ d, settings.validate = .ok d ↔
      settings.Roles d.opening d.closing d.modifier d.parameter ∧
        d.caseSensitive = settings.caseSensitive) ∧
    ∀ setting, (∃ fault, settings.validate = .error fault ∧ fault.setting = setting) ↔
      settings.FirstProblem setting :=
  ⟨exists_validate_iff, fun _ => validate_eq_ok_iff, fun _ => validate_eq_error_iff⟩

end DelimiterSettings

end Stencil
