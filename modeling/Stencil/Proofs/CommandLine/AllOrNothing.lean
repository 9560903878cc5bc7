import Stencil.CommandLine.Run
import Stencil.Proofs.CommandLine.Precedence
import Stencil.Proofs.CommandLine.Settings
import Stencil.Proofs.CommandLine.WithoutOutput

namespace Stencil.CommandLine

/-! Runs that do all that is asked or nothing.

Every command reads what it needs before it prints or writes, and what it prints it prints to the
end.  So a run that stops has neither printed nor written anything, and a file that a run writes
holds exactly what the run would have printed, even if it is one of the files that the run has read.
-/

theorem allOrNothing_emit (text : String) (output : Option String) :
    (emit text output).AllOrNothing := by
  cases output with
  | none => exact .print (.done ())
  | some path => exact .write (.done ()) fun fault => .stop _

theorem allOrNothing_printLines (lines : List String) : (Script.printLines lines).AllOrNothing :=
  (Script.neverStops_printLines lines).allOrNothing

theorem exitCode_ofEnd_eq_zero_iff {ended : Except Stop Unit} {printed : String} :
    (Outcome.ofEnd ended printed).exitCode = 0 ↔ ended = .ok () := by
  cases ended with
  | ok => simp [Outcome.ofEnd]
  | error reason => cases reason <;> simp [Outcome.ofEnd, Stop.exitCode]

theorem render_of_output {command : Command} {path : String}
    (output : command.output? = some path) :
    ∃ template assignments values, command = .render template assignments values (some path) := by
  cases command with
  | render template assignments values written =>
      cases output
      exact ⟨template, assignments, values, rfl⟩
  | keywords => cases output
  | modifiers => cases output
  | check => cases output

section

variable [Regex.Limits] {surroundings : Surroundings} {files : Files} {arguments : List String}
  {parsed : Arguments} {template path text : String} {assignments : List String}
  {values output : Option String}

theorem allOrNothing_runCommand (surroundings : Surroundings) (config : Config)
    (command : Command) : (runCommand surroundings config command).AllOrNothing := by
  cases command with
  | render template assignments values output =>
      exact Script.allOrNothing_bind (silent_render ..) fun text => allOrNothing_emit text output
  | keywords template =>
      refine Script.allOrNothing_bind (Script.reads_orFail _) fun d => ?_
      exact Script.allOrNothing_bind (Script.reads_readText ..) fun _ => allOrNothing_printLines _
  | modifiers => exact allOrNothing_printLines _
  | check =>
      exact Script.allOrNothing_bind (Script.reads_orFail _) fun _ => allOrNothing_printLines _

theorem allOrNothing_script (surroundings : Surroundings) (arguments : List String) :
    (script surroundings arguments).AllOrNothing := by
  rw [script]
  split
  · exact .stop .misused
  · exact .print (.done ())
  · exact .print (.done ())
  · exact Script.allOrNothing_bind (silent_loadConfig ..) fun _ => allOrNothing_runCommand ..

/-- A command that is not asked to write a file does not write one. -/
theorem reads_runCommand {command : Command} (plain : command.output? = none)
    (surroundings : Surroundings) (config : Config) :
    (runCommand surroundings config command).Reads True := by
  cases command with
  | render template assignments values output =>
      cases plain
      exact (silent_render ..).weaken.bind fun text => .print trivial (.done ())
  | keywords template =>
      refine (Script.reads_orFail _).bind fun d => ?_
      exact (Script.reads_readText ..).bind fun _ => Script.reads_printLines _
  | modifiers => exact Script.reads_printLines _
  | check => exact (Script.reads_orFail _).bind fun _ => Script.reads_printLines _

theorem reads_script (plain : outputPath? arguments = none) :
    (script surroundings arguments).Reads True := by
  rw [outputPath?] at plain
  rw [script]
  split
  · exact .stop .misused
  · exact .print trivial (.done ())
  · exact .print trivial (.done ())
  · next parse =>
      rw [parse] at plain
      exact (silent_loadConfig ..).weaken.bind fun _ => reads_runCommand plain ..

/-- How the part of a run ends that makes the text of a template. -/
def filledText (surroundings : Surroundings) (files : Files) (arguments : Arguments)
    (template : String) (assignments : List String) (values : Option String) :
    Except Stop String := do
  let config ← (loadConfig surroundings arguments).answer { files }
  (render surroundings.documents surroundings.orders config template assignments values).answer
    { files }

/-- What a run does with the text of a template comes last. -/
theorem run_script_render (parse : Arguments.parse arguments = .ok parsed)
    (asks : parsed.command = .render template assignments values output) :
    (script surroundings arguments).run { files } =
      match filledText surroundings files parsed template assignments values with
      | .ok text => (emit text output).run { files }
      | .error reason => (.error reason, { files }) := by
  simp only [script, parse, asks]
  rw [Script.run_bind_of_silent (silent_loadConfig ..), filledText]
  cases (loadConfig surroundings parsed).answer { files } with
  | error reason => rfl
  | ok config =>
      change (render surroundings.documents surroundings.orders config template assignments
        values >>= fun text => emit text output).run { files } = _
      rw [Script.run_bind_of_silent (silent_render ..)]
      simp only [bind, Except.bind]
      cases (render surroundings.documents surroundings.orders config template assignments
        values).answer { files } <;> rfl

theorem run_printed (parse : Arguments.parse arguments = .ok parsed)
    (asks : parsed.command = .render template assignments values none)
    (filled : filledText surroundings files parsed template assignments values = .ok text) :
    run surroundings files arguments = ({ exitCode := 0, output := text }, files) := by
  rw [run, run_script_render parse asks, filled]
  simp only [emit, Script.run, Outcome.ofEnd, String.empty_append]

theorem run_written (parse : Arguments.parse arguments = .ok parsed)
    (asks : parsed.command = .render template assignments values (some path))
    (succeeded : (run surroundings files arguments).1.exitCode = 0) :
    ∃ text after, filledText surroundings files parsed template assignments values = .ok text ∧
      files.write path text = .ok after ∧
      run surroundings files arguments = ({ exitCode := 0 }, after) := by
  have ended := exitCode_ofEnd_eq_zero_iff.mp succeeded
  rw [run_script_render parse asks] at ended
  cases filled : filledText surroundings files parsed template assignments values with
  | error reason =>
      rw [filled] at ended
      cases ended
  | ok text =>
      simp only [filled, emit, Script.run] at ended
      cases wrote : files.write path text with
      | error fault =>
          rw [wrote] at ended
          cases ended
      | ok after =>
          refine ⟨text, after, rfl, wrote, ?_⟩
          rw [run, run_script_render parse asks, filled]
          simp only [emit, Script.run, wrote]
          rfl

/-- No two keys of the configuration that a run loads, and no two keys of its assignments, fold to
one name. -/
def KeysApart (surroundings : Surroundings) (files : Files) (arguments : List String) : Prop :=
  ∀ parsed template assignments values output config (inputs : Inputs),
    Arguments.parse arguments = .ok parsed →
      parsed.command = .render template assignments values output →
        (loadConfig surroundings parsed).answer { files } = .ok config →
          inputs.Ready surroundings.documents files config template assignments values →
            inputs.Apart config

/-- Where keys are apart their order has no influence on the text of a template. -/
theorem filledText_of_apart (apart : KeysApart surroundings files arguments)
    (parse : Arguments.parse arguments = .ok parsed)
    (asks : parsed.command = .render template assignments values output) {text : String}
    (filled : filledText surroundings files parsed template assignments values = .ok text)
    (orders : Orders) :
    filledText { surroundings with orders } files parsed template assignments values =
      .ok text := by
  -- The configuration is read before any keys are listed.
  have sameConfig : loadConfig { surroundings with orders } parsed =
      loadConfig surroundings parsed := rfl
  obtain ⟨config, loaded, made⟩ := bind_eq_ok_iff.mp filled
  obtain ⟨inputs, ready⟩ := exists_ready_of_answer_render made
  have keysApart := apart _ _ _ _ _ _ _ parse asks loaded ready
  rw [filledText, sameConfig, loaded, ← made]
  exact (answer_render_of_apart ready keysApart orders).trans
    (answer_render_of_apart ready keysApart surroundings.orders).symm

/-- A run that fails has printed nothing and has left all files alone. -/
theorem run_failed (failed : (run surroundings files arguments).1.exitCode ≠ 0) :
    (run surroundings files arguments).1.output = "" ∧
      (run surroundings files arguments).2 = files := by
  cases ended : (script surroundings arguments).answer { files } with
  | ok => exact absurd (exitCode_ofEnd_eq_zero_iff.mpr ended) failed
  | error reason =>
      have unchanged := (allOrNothing_script surroundings arguments).run_stopped ended
      have whole : (script surroundings arguments).run { files } = (.error reason, { files }) :=
        Prod.ext ended unchanged
      rw [run, whole]
      exact ⟨rfl, rfl⟩

end

end Stencil.CommandLine
