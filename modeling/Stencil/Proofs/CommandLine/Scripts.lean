import Stencil.CommandLine.Script

namespace Stencil.CommandLine.Script

/-! What scripts can do to the world.

Each property of scripts has a rule for every request that a script with the property can make.
What such a script does when it is run is proved by induction on the rules.
-/

variable {α β : Type} {prints : Prop} {script : Script α} {next : α → Script β} {world : World}

theorem run_bind (script : Script α) (next : α → Script β) (world : World) :
    (script >>= next).run world =
      match script.run world with
      | (.ok result, after) => (next result).run after
      | (.error reason, after) => (.error reason, after) := by
  induction script generalizing world with
  | done result => rfl
  | stop reason => rfl
  | isThere path rest restIH => exact restIH _ world
  | read path rest restIH => exact restIH _ world
  | write path text rest restIH =>
      change (Script.write path text fun answer => rest answer >>= next).run world = _
      rw [run, run]
      cases world.files.write path text with
      | ok files => exact restIH _ _
      | error fault => exact restIH _ world
  | print text rest restIH => exact restIH _

/-- Writes no file, and prints only if that is allowed. -/
inductive Reads (prints : Prop) : Script α → Prop where
  | done (result : α) : Reads prints (.done result)
  | stop (reason : Stop) : Reads prints (.stop reason)
  | isThere {path : String} {next : Bool → Script α} :
      (∀ found, Reads prints (next found)) → Reads prints (.isThere path next)
  | read {path : String} {next : Except FileFault String → Script α} :
      (∀ answer, Reads prints (next answer)) → Reads prints (.read path next)
  | print {text : String} {next : Script α} :
      prints → Reads prints next → Reads prints (.print text next)

/-- Neither writes nor prints. -/
abbrev Silent (script : Script α) : Prop :=
  Reads False script

theorem Reads.bind (reads : Reads prints script) (later : ∀ result, Reads prints (next result)) :
    Reads prints (script >>= next) := by
  induction reads with
  | done result => exact later result
  | stop reason => exact .stop reason
  | isThere _ restIH => exact .isThere restIH
  | read _ restIH => exact .read restIH
  | print allowed _ restIH => exact .print allowed restIH

theorem reads_orFail (result : Except Failure α) : Reads prints (orFail result) := by
  cases result with
  | ok result => exact .done result
  | error failure => exact .stop (.failed failure)

theorem reads_orBreakOff (result : Option α) : Reads prints (orBreakOff result) := by
  cases result with
  | some result => exact .done result
  | none => exact .stop .brokenOff

theorem reads_readText (path : String) (failure : FileFault → Failure) :
    Reads prints (readText path failure) :=
  .read fun _ => reads_orFail _

theorem reads_printLines (lines : List String) : Reads True (printLines lines) := by
  induction lines with
  | nil => exact .done ()
  | cons line rest restIH => exact .print trivial restIH

theorem Reads.weaken (reads : Reads prints script) : Reads True script := by
  induction reads with
  | done result => exact .done result
  | stop reason => exact .stop reason
  | isThere _ restIH => exact .isThere restIH
  | read _ restIH => exact .read restIH
  | print _ _ restIH => exact .print trivial restIH

theorem Reads.files_run (reads : Reads prints script) (world : World) :
    (script.run world).2.files = world.files := by
  induction reads generalizing world with
  | done result => rfl
  | stop reason => rfl
  | isThere _ restIH => exact restIH _ world
  | read _ restIH => exact restIH _ world
  | print _ _ restIH => exact restIH _

/-- How a run ends. -/
def answer (script : Script α) (world : World) : Except Stop α :=
  (script.run world).1

theorem run_of_silent (silent : script.Silent) (world : World) :
    script.run world = (script.answer world, world) := by
  rw [answer]
  induction silent with
  | done result => rfl
  | stop reason => rfl
  | isThere _ restIH => exact restIH _
  | read _ restIH => exact restIH _
  | print allowed => exact allowed.elim

theorem run_bind_of_silent (silent : script.Silent) (next : α → Script β) (world : World) :
    (script >>= next).run world =
      match script.answer world with
      | .ok result => (next result).run world
      | .error reason => (.error reason, world) := by
  rw [run_bind, run_of_silent silent]
  cases script.answer world <;> rfl

theorem answer_bind (silent : script.Silent) (next : α → Script β) (world : World) :
    (script >>= next).answer world =
      script.answer world >>= fun result => (next result).answer world := by
  rw [answer, run_bind_of_silent silent]
  cases script.answer world <;> rfl

theorem answer_bind_of_ok (silent : script.Silent) {result : α}
    (ended : script.answer world = .ok result) :
    (script >>= next).answer world = (next result).answer world := by
  rw [answer_bind silent, ended]
  rfl

@[simp] theorem answer_orFail (result : Except Failure α) (world : World) :
    (orFail result).answer world = result.mapError Stop.failed := by
  cases result <;> rfl

@[simp] theorem answer_orBreakOff (result : Option α) (world : World) :
    (orBreakOff result).answer world = result.elim (.error .brokenOff) .ok := by
  cases result <;> rfl

@[simp] theorem answer_readText (path : String) (failure : FileFault → Failure) (world : World) :
    (readText path failure).answer world =
      ((world.files.read path).mapError failure).mapError Stop.failed :=
  answer_orFail _ world

/-- Ends with a result, whatever the answers are. -/
inductive NeverStops : Script α → Prop where
  | done (result : α) : NeverStops (.done result)
  | isThere {path : String} {next : Bool → Script α} :
      (∀ found, NeverStops (next found)) → NeverStops (.isThere path next)
  | read {path : String} {next : Except FileFault String → Script α} :
      (∀ answer, NeverStops (next answer)) → NeverStops (.read path next)
  | write {path text : String} {next : Except FileFault Unit → Script α} :
      (∀ answer, NeverStops (next answer)) → NeverStops (.write path text next)
  | print {text : String} {next : Script α} : NeverStops next → NeverStops (.print text next)

theorem neverStops_printLines (lines : List String) : NeverStops (printLines lines) := by
  induction lines with
  | nil => exact .done ()
  | cons line rest restIH => exact .print restIH

theorem NeverStops.answer_eq_ok (never : NeverStops script) (world : World) :
    ∃ result, script.answer world = .ok result := by
  induction never generalizing world with
  | done result => exact ⟨result, rfl⟩
  | isThere _ restIH => exact restIH _ world
  | read _ restIH => exact restIH _ world
  | @write path text next _ restIH =>
      rw [answer, run]
      cases world.files.write path text with
      | ok files => exact restIH _ _
      | error fault => exact restIH _ world
  | print _ restIH => exact restIH _

/-- Once something is written or printed there is no way to stop. -/
inductive AllOrNothing : Script α → Prop where
  | done (result : α) : AllOrNothing (.done result)
  | stop (reason : Stop) : AllOrNothing (.stop reason)
  | isThere {path : String} {next : Bool → Script α} :
      (∀ found, AllOrNothing (next found)) → AllOrNothing (.isThere path next)
  | read {path : String} {next : Except FileFault String → Script α} :
      (∀ answer, AllOrNothing (next answer)) → AllOrNothing (.read path next)
  | write {path text : String} {next : Except FileFault Unit → Script α} :
      NeverStops (next (.ok ())) → (∀ fault, AllOrNothing (next (.error fault))) →
        AllOrNothing (.write path text next)
  | print {text : String} {next : Script α} : NeverStops next → AllOrNothing (.print text next)

theorem NeverStops.allOrNothing (never : NeverStops script) : AllOrNothing script := by
  induction never with
  | done result => exact .done result
  | isThere _ restIH => exact .isThere restIH
  | read _ restIH => exact .read restIH
  | write never restIH => exact .write (never _) fun fault => restIH (.error fault)
  | print never => exact .print never

/-- What is read first does no harm. -/
theorem allOrNothing_bind (silent : script.Silent) (later : ∀ result, AllOrNothing (next result)) :
    AllOrNothing (script >>= next) := by
  induction silent with
  | done result => exact later result
  | stop reason => exact .stop reason
  | isThere _ restIH => exact .isThere restIH
  | read _ restIH => exact .read restIH
  | print allowed => exact allowed.elim

/-- A run that stops has changed nothing. -/
theorem AllOrNothing.run_stopped (allOrNothing : AllOrNothing script) {reason : Stop}
    (stopped : script.answer world = .error reason) : (script.run world).2 = world := by
  induction allOrNothing with
  | done | stop => rfl
  | isThere _ restIH => exact restIH _ stopped
  | read _ restIH => exact restIH _ stopped
  | @write path text next never _ restIH =>
      rw [answer, run] at stopped
      rw [run]
      cases wrote : world.files.write path text with
      | ok files =>
          rw [wrote] at stopped
          obtain ⟨result, ended⟩ := never.answer_eq_ok { world with files }
          cases ended.symm.trans stopped
      | error fault =>
          rw [wrote] at stopped
          exact restIH fault stopped
  | @print text next never =>
      obtain ⟨result, ended⟩ := never.answer_eq_ok { world with output := world.output ++ text }
      cases ended.symm.trans stopped

end Stencil.CommandLine.Script
