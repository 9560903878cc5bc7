import Stencil.CommandLine.Failure

namespace Stencil.CommandLine

/-! Runs as what they ask of the system, one request after the other.

A script looks at files, reads and writes them and prints, and goes on in a way that can depend on
the answers.  It ends with a result or for a reason.
-/

/-- Why a run ends without a result. -/
inductive Stop where
  | failed (failure : Failure)
  /-- The arguments make no sense. -/
  | misused
  /-- A modifier breaks off. -/
  | brokenOff

inductive Script (α : Type) where
  | done (result : α)
  | stop (reason : Stop)
  /-- Tests if a path leads to a file or a directory. -/
  | isThere (path : String) (next : Bool → Script α)
  | read (path : String) (next : Except FileFault String → Script α)
  | write (path text : String) (next : Except FileFault Unit → Script α)
  | print (text : String) (next : Script α)

/-- What a run can change. -/
structure World where
  files : Files
  /-- What has been printed. -/
  output : String := ""

namespace Script

variable {α β : Type}

/-- Goes on with another script after the result. -/
def bind : Script α → (α → Script β) → Script β
  | .done result, next => next result
  | .stop reason, _ => .stop reason
  | .isThere path rest, next => .isThere path fun found => (rest found).bind next
  | .read path rest, next => .read path fun answer => (rest answer).bind next
  | .write path text rest, next => .write path text fun answer => (rest answer).bind next
  | .print text rest, next => .print text (rest.bind next)

instance : Monad Script where
  pure := .done
  bind := .bind

/-- Stops at a failure. -/
def orFail : Except Failure α → Script α
  | .ok result => .done result
  | .error failure => .stop (.failed failure)

/-- Breaks off where a modifier does. -/
def orBreakOff : Option α → Script α
  | some result => .done result
  | none => .stop .brokenOff

/-- The text of a file, which is to be there. -/
def readText (path : String) (failure : FileFault → Failure) : Script String :=
  .read path fun answer => orFail (answer.mapError failure)

def printLines : List String → Script Unit
  | [] => .done ()
  | line :: rest => .print (line ++ "\n") (printLines rest)

/-- Carries the requests out in order. -/
def run : Script α → World → Except Stop α × World
  | .done result, world => (.ok result, world)
  | .stop reason, world => (.error reason, world)
  | .isThere path next, world => (next (world.files.isThere path)).run world
  | .read path next, world => (next (world.files.read path)).run world
  | .write path text next, world =>
      match world.files.write path text with
      | .ok files => (next (.ok ())).run { world with files }
      | .error fault => (next (.error fault)).run world
  | .print text next, world => next.run { world with output := world.output ++ text }

end Script

end Stencil.CommandLine
