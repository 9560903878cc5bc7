import Stencil.Proofs.CommandLine.Reading

namespace Stencil.CommandLine

/-! The same command line without a file to write.

The switch for the file and its value are taken out of the arguments, however they are spelled.
What is left asks for all that it asked for before, because no other switch depends on this one.
-/

/-- The file that a command writes, if it writes one. -/
def Command.output? : Command → Option String
  | .render _ _ _ output => output
  | _ => none

/-- The command that prints what another one would write. -/
def Command.withoutOutput : Command → Command
  | .render template assignments values _ => .render template assignments values none
  | command => command

def Arguments.withoutOutput (arguments : Arguments) : Arguments :=
  { arguments with command := arguments.command.withoutOutput }

/-- The file that a command line asks to write, if it asks for one. -/
def outputPath? (arguments : List String) : Option String :=
  match Arguments.parse arguments with
  | .ok parsed => parsed.command.output?
  | .error _ => none

/-- The second command line asks for the same as the first one, but for no file to be written. -/
def SameButOutput (arguments plain : List String) : Prop :=
  Arguments.parse plain = (Arguments.parse arguments).map Arguments.withoutOutput

/-- The letters after a hyphen up to the one for the file to write, and the switch whose value is
the next argument. -/
def eraseLetters : List Char → List Char × Option Switch
  | [] => ([], none)
  | c :: rest =>
      match renderScope.find? (·.letter? == some c) with
      | none => (c :: rest, none)
      | some switch =>
          if switch.takesValue then
            (if switch = .output then [] else c :: rest, if rest.isEmpty then some switch else none)
          else (c :: (eraseLetters rest).1, (eraseLetters rest).2)

/-- Tests if the text after two hyphens names another switch than the one for the file to write.
Also gives the switch whose value is the next argument. -/
def eraseName (text : List Char) : Bool × Option Switch :=
  match renderScope.find? (·.name.toList == text.takeWhile (· != '=')) with
  | none => (true, none)
  | some switch =>
      (switch != .output,
        if switch.takesValue && (text.dropWhile (· != '=')).isEmpty then some switch else none)

/-- The argument with these letters, if there are any. -/
def letterArgument (letters : List Char) : List String :=
  if letters.isEmpty then [] else [String.ofList ('-' :: letters)]

/-- What is left of an argument that looks like a switch, and the switch whose value is the next
argument. -/
def eraseArgument (argument : String) : List String × Option Switch :=
  match argument.toList with
  | '-' :: '-' :: text => (if (eraseName text).1 then [argument] else [], (eraseName text).2)
  | text => (letterArgument (eraseLetters text.tail).1, (eraseLetters text.tail).2)

/-- The arguments after the name of a command without those for the file to write. -/
def eraseOutput : Option Switch → List String → List String
  | _, [] => []
  | some switch, value :: rest =>
      if switch = .output then eraseOutput none rest else value :: eraseOutput none rest
  | none, argument :: rest =>
      if argument = "--" then argument :: rest
      else if Level.isSwitchLike argument then
        (eraseArgument argument).1 ++ eraseOutput (eraseArgument argument).2 rest
      else argument :: eraseOutput none rest

namespace Level

/-- What has been read without the file to write. -/
def withoutOutput (level : Level) : Level :=
  { level with given := level.given.filter (·.1 != .output) }

variable {level given : Level} {switch : Switch} {pending : Option Switch}
  {value argument : String} {letters text : List Char} {arguments : List String} {limit : Nat}

theorem refuses_withoutOutput (willing : level.refuses switch = false) :
    level.withoutOutput.refuses switch = false := by
  rw [refuses, Bool.and_eq_false_imp] at willing ⊢
  intro once
  rw [List.any_eq_false] at *
  exact fun earlier member => willing once earlier (List.mem_of_mem_filter member)

theorem give_withoutOutput (other : switch ≠ .output) (gave : level.give switch value = .ok given) :
    level.withoutOutput.give switch value = .ok given.withoutOutput := by
  obtain ⟨noHelp, noVersion, willing, proper, rfl⟩ := give_eq_ok_iff.mp gave
  refine give_eq_ok_iff.mpr ⟨noHelp, noVersion, refuses_withoutOutput willing, proper, ?_⟩
  simp [withoutOutput, List.filter_append, other]

theorem withoutOutput_of_give_output (gave : level.give .output value = .ok given) :
    given.withoutOutput = level.withoutOutput := by
  obtain ⟨_, _, _, _, rfl⟩ := give_eq_ok_iff.mp gave
  simp [withoutOutput, List.filter_append]

theorem addOperand_withoutOutput (added : level.addOperand limit value = .ok given) :
    level.withoutOutput.addOperand limit value = .ok given.withoutOutput := by
  rw [addOperand] at added ⊢
  split at added
  · next fits =>
      cases added
      exact if_pos fits
  · cases added

theorem addOperands_withoutOutput
    (added : arguments.foldlM (fun level value => level.addOperand limit value) level = .ok given) :
    arguments.foldlM (fun level value => level.addOperand limit value) level.withoutOutput =
      .ok given.withoutOutput := by
  induction arguments generalizing level with
  | nil =>
      cases added
      rfl
  | cons value rest restIH =>
      rw [List.foldlM_cons] at added ⊢
      obtain ⟨next, here, later⟩ := bind_eq_ok_iff.mp added
      rw [addOperand_withoutOutput here]
      exact restIH later

/-- The switch that still waits for its value, without the file to write. -/
def waiting (pending : Option Switch) : Option Switch :=
  pending.filter (· != .output)

theorem waiting_of_ne (other : switch ≠ .output) : waiting (some switch) = some switch :=
  Option.filter_some_pos (bne_iff_ne.mpr other)

/-- Whatever gives one switch still does, unless this is the one for the file to write. -/
theorem GivesOne.withoutOutput {gives : Level → Except Interruption (Level × Option Switch)}
    {waits : Option Switch} (one : GivesOne gives switch waits)
    (gave : gives level = .ok (given, pending)) :
    waits = pending ∧
      if switch = .output then (level.withoutOutput, none) = (given.withoutOutput, waiting pending)
      else gives level.withoutOutput = .ok (given.withoutOutput, waiting pending) := by
  cases one with
  | now value same =>
      rw [same] at gave
      obtain ⟨next, here, made⟩ := bind_eq_ok_iff.mp gave
      cases made
      refine ⟨rfl, ?_⟩
      split
      · next isOutput =>
          subst isOutput
          rw [withoutOutput_of_give_output here]
          rfl
      · next other =>
          rw [same, give_withoutOutput other here]
          rfl
  | later same =>
      cases (same level).symm.trans gave
      refine ⟨rfl, ?_⟩
      split
      · next isOutput =>
          subst isOutput
          rfl
      · next other => rw [same, waiting_of_ne other]

theorem giveLetters_eraseLetters
    (gave : giveLetters renderScope level letters = .ok (given, pending)) :
    (eraseLetters letters).2 = pending ∧
      giveLetters renderScope level.withoutOutput (eraseLetters letters).1 =
        .ok (given.withoutOutput, waiting pending) := by
  induction letters generalizing level with
  | nil =>
      cases gave
      exact ⟨rfl, rfl⟩
  | cons c rest restIH =>
      cases found : renderScope.find? (·.letter? == some c) with
      | none => simp [giveLetters, found] at gave
      | some switch =>
          by_cases valued : switch.takesValue = true
          · obtain ⟨samePending, kept⟩ := (givesOne_letters found valued rest).withoutOutput gave
            simp only [eraseLetters, found, if_pos valued]
            refine ⟨samePending, ?_⟩
            split at kept
            · next isOutput =>
                rw [if_pos isOutput]
                exact congrArg Except.ok kept
            · next other =>
                rw [if_neg other]
                exact kept
          · simp only [giveLetters, found, if_neg valued] at gave
            obtain ⟨next, here, later⟩ := bind_eq_ok_iff.mp gave
            obtain ⟨samePending, restGave⟩ := restIH later
            have other : switch ≠ .output := fun same => valued (same ▸ rfl)
            simp only [eraseLetters, found, if_neg valued]
            refine ⟨samePending, ?_⟩
            simp only [giveLetters, found, if_neg valued, give_withoutOutput other here]
            exact restGave

theorem giveName_eraseName (gave : giveName renderScope level text = .ok (given, pending)) :
    (eraseName text).2 = pending ∧
      if (eraseName text).1 then
        giveName renderScope level.withoutOutput text = .ok (given.withoutOutput, waiting pending)
      else (level.withoutOutput, none) = (given.withoutOutput, waiting pending) := by
  cases found : renderScope.find? (·.name.toList == text.takeWhile (· != '=')) with
  | none => simp [giveName, found] at gave
  | some switch =>
      obtain ⟨samePending, kept⟩ := (givesOne_name found gave).withoutOutput gave
      simp only [eraseName, found]
      refine ⟨samePending, ?_⟩
      by_cases isOutput : switch = .output
      · rw [if_pos isOutput] at kept
        rw [if_neg (by simp [isOutput])]
        exact kept
      · rw [if_neg isOutput] at kept
        rw [if_pos (bne_iff_ne.mpr isOutput)]
        exact kept

theorem read_letterArgument
    (gave : giveLetters renderScope level letters = .ok (given, pending)) :
    read renderScope false limit level none (letterArgument letters ++ arguments) =
      read renderScope false limit given pending arguments := by
  cases letters with
  | nil =>
      cases gave
      rfl
  | cons c rest =>
      -- No switch has a hyphen for its letter.
      have noHyphen : c ≠ '-' := by
        rintro rfl
        cases gave
      have noEnd : String.ofList ('-' :: c :: rest) ≠ "--" := by
        intro isEnd
        have spelled := congrArg String.toList isEnd
        rw [String.toList_ofList] at spelled
        exact noHyphen (List.cons.inj (List.cons.inj spelled).2).1
      have noName : giveArgument renderScope level (String.ofList ('-' :: c :: rest)) =
          giveLetters renderScope level (c :: rest) := by
        rw [giveArgument, String.toList_ofList]
        split
        · next isName => exact absurd (List.cons.inj (List.cons.inj isName).2).1 noHyphen
        · rfl
      exact read_of_giveArgument (isSwitchLike_ofList c rest) noEnd (noName.trans gave)

theorem eraseArgument_of_name (isName : argument.toList = '-' :: '-' :: text) :
    eraseArgument argument =
      (if (eraseName text).1 then [argument] else [], (eraseName text).2) := by
  rw [eraseArgument, isName]
  rfl

theorem eraseArgument_of_letters (noName : ∀ text, argument.toList ≠ '-' :: '-' :: text) :
    eraseArgument argument =
      (letterArgument (eraseLetters argument.toList.tail).1,
        (eraseLetters argument.toList.tail).2) := by
  rw [eraseArgument]
  split
  · next isName => exact absurd isName (noName _)
  · rfl

theorem read_eraseArgument (switchLike : isSwitchLike argument = true) (noEnd : argument ≠ "--")
    (gave : giveArgument renderScope level argument = .ok (given, pending)) :
    (eraseArgument argument).2 = pending ∧
      read renderScope false limit level.withoutOutput none
          ((eraseArgument argument).1 ++ arguments) =
        read renderScope false limit given.withoutOutput (waiting pending) arguments := by
  rw [giveArgument] at gave
  split at gave
  · next text isName =>
      obtain ⟨samePending, kept⟩ := giveName_eraseName gave
      rw [eraseArgument_of_name isName]
      refine ⟨samePending, ?_⟩
      split at kept
      · next isKept =>
          rw [if_pos isKept]
          refine read_of_giveArgument switchLike noEnd ?_
          rw [giveArgument, isName]
          exact kept
      · next isDropped =>
          obtain ⟨sameLevel, nothingWaits⟩ := Prod.mk.inj kept
          rw [if_neg isDropped, ← sameLevel, ← nothingWaits]
          rfl
  · next noName =>
      obtain ⟨samePending, kept⟩ := giveLetters_eraseLetters gave
      rw [eraseArgument_of_letters noName]
      exact ⟨samePending, read_letterArgument kept⟩

/-- The arguments that are left give what all of them gave, but for the file to write. -/
theorem read_eraseOutput
    (readAll : read renderScope false limit level pending arguments = .ok given) :
    read renderScope false limit level.withoutOutput (waiting pending)
        (eraseOutput pending arguments) = .ok given.withoutOutput := by
  -- By the reader's own cases: each argument is erased in the state that the reader meets it in, and
  -- a value goes with the switch that waits for it.
  fun_induction read renderScope false limit level pending arguments with
  | case1 level =>
      cases readAll
      rfl
  | case2 => cases readAll
  | case3 => cases readAll
  | case4 level switch value rest proper restIH =>
      obtain ⟨next, here, later⟩ := bind_eq_ok_iff.mp readAll
      by_cases isOutput : switch = .output
      · cases isOutput
        rw [eraseOutput, if_pos rfl, ← withoutOutput_of_give_output here]
        exact restIH next later
      · rw [eraseOutput, if_neg isOutput, waiting_of_ne isOutput, read, if_neg proper,
          give_withoutOutput isOutput here]
        exact restIH next later
  | case5 level rest =>
      rw [eraseOutput, if_pos rfl]
      exact (if_pos rfl).trans (addOperands_withoutOutput readAll)
  | case6 level argument rest noEnd switchLike restIH =>
      obtain ⟨⟨next, pending⟩, here, later⟩ := bind_eq_ok_iff.mp readAll
      rw [eraseOutput, if_neg noEnd, if_pos switchLike]
      obtain ⟨samePending, skipped⟩ := read_eraseArgument switchLike noEnd here
      rw [samePending]
      exact skipped.trans (restIH next pending later)
  | case7 level argument rest noEnd plain commands => cases commands
  | case8 level argument rest noEnd plain _ restIH =>
      obtain ⟨next, here, later⟩ := bind_eq_ok_iff.mp readAll
      rw [eraseOutput, if_neg noEnd, if_neg plain, show waiting none = none from rfl, read,
        if_neg noEnd, if_neg plain, if_neg Bool.false_ne_true, addOperand_withoutOutput here]
      exact restIH next later

theorem valuesOf_withoutOutput (other : switch ≠ .output) :
    level.withoutOutput.valuesOf switch = level.valuesOf switch := by
  rw [valuesOf, valuesOf, withoutOutput, List.filter_filter]
  refine congrArg (List.map _) (List.filter_congr fun given _ => ?_)
  by_cases here : given.1 = switch <;> simp [here, other]

theorem value?_withoutOutput (other : switch ≠ .output) :
    level.withoutOutput.value? switch = level.value? switch := by
  rw [value?, value?, withoutOutput, List.find?_filter]
  refine congrArg (Option.map _) (congrArg (List.find? · level.given) (funext fun given => ?_))
  by_cases here : given.1 = switch <;> simp [here, other]

theorem value?_output_withoutOutput (level : Level) :
    level.withoutOutput.value? .output = none := by
  rw [value?, withoutOutput, List.find?_filter]
  simp

end Level

variable {command : Command} {outer inner : Level} {name path : String} {rest : List String}

theorem outputPath?_eq_some_iff {arguments : List String} :
    outputPath? arguments = some path ↔
      ∃ parsed, Arguments.parse arguments = .ok parsed ∧ parsed.command.output? = some path := by
  rw [outputPath?]
  cases Arguments.parse arguments <;> simp

theorem argumentsOf_withoutOutput :
    argumentsOf command.withoutOutput outer inner.withoutOutput =
      (argumentsOf command outer inner).withoutOutput := by
  simp [argumentsOf, overridesOf, Arguments.withoutOutput, Level.value?_withoutOutput]

theorem name_of_output (read : readCommand name rest = .ok (command, inner))
    (asks : command.output? = some path) : name = "render" := by
  unfold readCommand at read
  split at read
  · rfl
  · obtain ⟨level, _, made⟩ := bind_eq_ok_iff.mp read
    split at made
    · cases made
      cases asks
    · cases made
  · obtain ⟨level, _, made⟩ := bind_eq_ok_iff.mp read
    cases made
    cases asks
  · obtain ⟨level, _, made⟩ := bind_eq_ok_iff.mp read
    cases made
    cases asks
  · cases read

theorem readCommand_eraseOutput (read : readCommand "render" rest = .ok (command, inner)) :
    readCommand "render" (eraseOutput none rest) =
      .ok (command.withoutOutput, inner.withoutOutput) := by
  obtain ⟨readAll, template, operands, rfl⟩ := readCommand_render_eq_ok_iff.mp read
  have sameAssignments : inner.withoutOutput.valuesOf .assignment = inner.valuesOf .assignment :=
    Level.valuesOf_withoutOutput nofun
  have sameValues : inner.withoutOutput.value? .values = inner.value? .values :=
    Level.value?_withoutOutput nofun
  refine readCommand_render_eq_ok_iff.mpr
    ⟨Level.read_eraseOutput readAll, template, operands, ?_⟩
  rw [sameAssignments, sameValues, Level.value?_output_withoutOutput]
  rfl

/-- Without the arguments for the file a command line asks for the same but for the file. -/
theorem sameButOutput_eraseOutput {arguments : List String}
    (asks : outputPath? arguments = some path) :
    ∃ before rest, arguments = before ++ "render" :: rest ∧
      SameButOutput arguments (before ++ "render" :: eraseOutput none rest) := by
  obtain ⟨parsed, parse, asks⟩ := outputPath?_eq_some_iff.mp asks
  obtain ⟨outer, name, rest, command, inner, readAll, ended, noHelp, read, rfl⟩ :=
    parse_eq_ok_iff.mp parse
  obtain rfl := name_of_output read asks
  obtain ⟨before, rfl, alike⟩ := Level.read_before_command readAll rfl ended
  refine ⟨before, rest, rfl, ?_⟩
  rw [SameButOutput, parse]
  exact parse_eq_ok_iff.mpr ⟨_, _, _, _, _, alike _, rfl, noHelp, readCommand_eraseOutput read,
    argumentsOf_withoutOutput.symm⟩

example : eraseOutput none ["page.txt", "-vo", "page.html", "--values=page.yaml"] =
    ["page.txt", "-v", "--values=page.yaml"] := by
  decide +kernel

end Stencil.CommandLine
