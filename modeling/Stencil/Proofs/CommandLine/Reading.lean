import Stencil.CommandLine.Arguments
import Stencil.Proofs.Data.Outcomes

namespace Stencil.CommandLine

/-! What is read of a command line.

The arguments are read from left to right, and each of them gives switches or is an operand or the
command.  So a command is found without a look at what stands after it.
-/

namespace Level

variable {level given : Level} {scope : List Switch} {switch : Switch} {pending : Option Switch}
  {value argument name : String} {letters text : List Char} {arguments rest : List String}
  {commands : Bool} {limit : Nat}

/-- Tests for the switches that are given already and cannot be given again. -/
def refuses (level : Level) (switch : Switch) : Bool :=
  switch != .assignment && level.given.any (·.1 == switch)

theorem give_eq_ok_iff : level.give switch value = .ok given ↔
    switch ≠ .help ∧ switch ≠ .version ∧ level.refuses switch = false ∧
      (switch.takesPath && value.isEmpty) = false ∧
      given = { level with given := level.given ++ [(switch, value)] } := by
  rw [give, ← refuses]
  by_cases isHelp : switch = .help
  · simp [isHelp]
  by_cases isVersion : switch = .version
  · simp [isVersion]
  rw [if_neg isHelp, if_neg isVersion]
  cases level.refuses switch <;> cases switch.takesPath && value.isEmpty <;>
    simp [isHelp, isVersion, eq_comm]

theorem command_give (gave : level.give switch value = .ok given) :
    given.command = level.command := by
  obtain ⟨_, _, _, _, rfl⟩ := give_eq_ok_iff.mp gave
  rfl

/-- Readings that give one switch with a value, or leave it waiting for the next argument. -/
inductive GivesOne (gives : Level → Except Interruption (Level × Option Switch)) (switch : Switch) :
    Option Switch → Prop
  | now (value : String)
      (same : ∀ level, gives level = do return (← level.give switch value, none)) :
      GivesOne gives switch none
  | later (same : ∀ level, gives level = .ok (level, some switch)) :
      GivesOne gives switch (some switch)

theorem givesOne_letters {c : Char} (found : scope.find? (·.letter? == some c) = some switch)
    (valued : switch.takesValue = true) (rest : List Char) :
    GivesOne (giveLetters scope · (c :: rest)) switch
      (if rest.isEmpty then some switch else none) := by
  cases rest with
  | nil => exact .later fun level => by simp [giveLetters, found, valued]
  | cons sign value =>
      by_cases signed : sign = '='
      · subst signed
        exact .now (String.ofList value) fun level => by simp [giveLetters, found, valued]
      · exact .now (String.ofList (sign :: value)) fun level => by
          simp [giveLetters, found, valued, signed]

theorem givesOne_name
    (found : scope.find? (·.name.toList == text.takeWhile (· != '=')) = some switch)
    (gave : giveName scope level text = .ok (given, pending)) :
    GivesOne (giveName scope · text) switch
      (if switch.takesValue && (text.dropWhile (· != '=')).isEmpty then some switch else none) := by
  cases tail : text.dropWhile (· != '=') with
  | nil =>
      cases valued : switch.takesValue with
      | true => exact .later fun level => by simp [giveName, found, tail, valued]
      | false => exact .now "" fun level => by simp [giveName, found, tail, valued]
  | cons sign value =>
      cases valued : switch.takesValue with
      | true =>
          rw [Bool.true_and]
          exact .now (String.ofList value) fun level => by simp [giveName, found, tail, valued]
      | false => simp [giveName, found, tail, valued] at gave

theorem GivesOne.command {gives : Level → Except Interruption (Level × Option Switch)}
    {waits : Option Switch} (one : GivesOne gives switch waits)
    (gave : gives level = .ok (given, pending)) : given.command = level.command := by
  cases one with
  | now value same =>
      obtain ⟨next, here, made⟩ := bind_eq_ok_iff.mp ((same level).symm.trans gave)
      cases made
      exact command_give here
  | later same =>
      cases (same level).symm.trans gave
      rfl

theorem command_giveLetters (gave : giveLetters scope level letters = .ok (given, pending)) :
    given.command = level.command := by
  induction letters generalizing level with
  | nil =>
      cases gave
      rfl
  | cons c rest restIH =>
      cases found : scope.find? (·.letter? == some c) with
      | none => simp [giveLetters, found] at gave
      | some switch =>
          by_cases valued : switch.takesValue = true
          · exact (givesOne_letters found valued rest).command gave
          · simp only [giveLetters, found, if_neg valued] at gave
            obtain ⟨next, here, later⟩ := bind_eq_ok_iff.mp gave
            exact (restIH later).trans (command_give here)

theorem command_giveName (gave : giveName scope level text = .ok (given, pending)) :
    given.command = level.command := by
  cases found : scope.find? (·.name.toList == text.takeWhile (· != '=')) with
  | none => simp [giveName, found] at gave
  | some switch => exact (givesOne_name found gave).command gave

theorem command_giveArgument (gave : giveArgument scope level argument = .ok (given, pending)) :
    given.command = level.command := by
  rw [giveArgument] at gave
  split at gave
  · exact command_giveName gave
  · exact command_giveLetters gave

theorem command_addOperands
    (added : arguments.foldlM (fun level value => level.addOperand limit value) level = .ok given) :
    given.command = level.command := by
  induction arguments generalizing level with
  | nil =>
      cases added
      rfl
  | cons value rest restIH =>
      rw [List.foldlM_cons] at added
      obtain ⟨next, here, later⟩ := bind_eq_ok_iff.mp added
      rw [addOperand] at here
      split at here
      · cases here
        exact (restIH later).trans rfl
      · cases here

/-- What one argument gives is given before the other arguments are read. -/
theorem read_of_giveArgument
    (switchLike : isSwitchLike argument = true) (noEnd : argument ≠ "--")
    (gave : giveArgument scope level argument = .ok (given, pending)) :
    read scope commands limit level none (argument :: arguments) =
      read scope commands limit given pending arguments := by
  rw [read, if_neg noEnd, if_pos switchLike, gave]
  rfl

theorem isSwitchLike_ofList (c : Char) (rest : List Char) :
    isSwitchLike (String.ofList ('-' :: c :: rest)) = true := by
  have notAlone : String.ofList ('-' :: c :: rest) ≠ "-" := by
    intro alone
    have spelled := congrArg String.toList alone
    rw [String.toList_ofList] at spelled
    cases spelled
  rw [isSwitchLike, String.toList_ofList, bne_iff_ne.mpr notAlone]
  rfl

/-- What stands before a command is read alike whatever stands after it. -/
theorem read_before_command
    (readAll : read scope true limit level pending arguments = .ok given)
    (fresh : level.command = none) (ended : given.command = some (name, rest)) :
    ∃ before, arguments = before ++ name :: rest ∧ ∀ others,
      read scope true limit level pending (before ++ name :: others) =
        .ok { given with command := some (name, others) } := by
  -- The command is where the reader stops, and no level has one before.
  fun_induction read scope true limit level pending arguments with
  | case1 level =>
      cases readAll
      rw [fresh] at ended
      cases ended
  | case2 => cases readAll
  | case3 => cases readAll
  | case4 level switch value arguments proper restIH =>
      obtain ⟨next, here, later⟩ := bind_eq_ok_iff.mp readAll
      obtain ⟨before, rfl, alike⟩ := restIH next later ((command_give here).trans fresh)
      refine ⟨value :: before, rfl, fun others => ?_⟩
      rw [List.cons_append, read, if_neg proper, here]
      exact alike others
  | case5 level arguments =>
      have none := (command_addOperands readAll).trans fresh
      rw [none] at ended
      cases ended
  | case6 level argument arguments noEnd switchLike restIH =>
      obtain ⟨⟨next, pending⟩, here, later⟩ := bind_eq_ok_iff.mp readAll
      obtain ⟨before, rfl, alike⟩ :=
        restIH next pending later ((command_giveArgument here).trans fresh)
      refine ⟨argument :: before, rfl, fun others => ?_⟩
      exact (read_of_giveArgument switchLike noEnd here).trans (alike others)
  | case7 level argument arguments noEnd plain =>
      cases readAll
      cases ended
      refine ⟨[], rfl, fun others => ?_⟩
      rw [List.nil_append, read, if_neg noEnd, if_neg plain, if_pos rfl]
      rfl
  | case8 level argument arguments noEnd plain none => exact absurd rfl none

end Level

theorem readCommand_render_eq_ok_iff {rest : List String} {command : Command} {level : Level} :
    readCommand "render" rest = .ok (command, level) ↔
      Level.read renderScope false 1 {} none rest = .ok level ∧
        ∃ template, level.operands = [template] ∧
          command = .render template (level.valuesOf .assignment) (level.value? .values)
            (level.value? .output) := by
  rw [readCommand, bind_eq_ok_iff]
  constructor
  · rintro ⟨level, read, made⟩
    split at made
    · next template operands =>
        cases made
        exact ⟨read, template, operands, rfl⟩
    · cases made
  · rintro ⟨read, template, operands, rfl⟩
    refine ⟨level, read, ?_⟩
    rw [operands]
    rfl

theorem parse_eq_ok_iff {arguments : List String} {parsed : Arguments} :
    Arguments.parse arguments = .ok parsed ↔ ∃ outer name rest command inner,
      Level.read outerScope true 0 {} none arguments = .ok outer ∧
        outer.command = some (name, rest) ∧ name ≠ "help" ∧
        readCommand name rest = .ok (command, inner) ∧
        parsed = argumentsOf command outer inner := by
  rw [Arguments.parse, bind_eq_ok_iff]
  constructor
  · rintro ⟨outer, readAll, made⟩
    split at made
    · cases made
    · split at made
      · cases made
      · split at made <;> cases made
      · cases made
    · next name rest noHelp ended =>
        obtain ⟨⟨command, inner⟩, read, same⟩ := bind_eq_ok_iff.mp made
        cases same
        exact ⟨outer, name, rest, command, inner, readAll, ended, noHelp, read, rfl⟩
  · rintro ⟨outer, name, rest, command, inner, readAll, ended, noHelp, read, rfl⟩
    refine ⟨outer, readAll, ?_⟩
    rw [ended]
    split
    · next missing => cases missing
    · next isHelp =>
        cases isHelp
        exact absurd rfl noHelp
    · next isName =>
        cases isName
        exact bind_eq_ok_iff.mpr ⟨_, read, rfl⟩

end Stencil.CommandLine
