import Stencil.CommandLine.Run

/-! The program.  It gives a script the variables that it can depend on, and carries out on the
system what the script asks for. -/

namespace Stencil.CommandLine

/-- Programs of expressions that fit into ten megabytes, at 32 bytes for an instruction. -/
@[reducible] def programLimits : Regex.Limits := .instructions (10 * 1024 * 1024 / 32)

/-- The variables that a run can depend on. -/
def variableNames : List String :=
  ["KWDMOD_KWD_DELIM", "KWDMOD_MOD_DELIM", "KWDMOD_PARAM_DELIM", "KWDMOD_CASE_SENSITIVE",
    "KWDMOD_LOG_LEVEL", "KWDMOD_LOG_FORMAT"]

/-- Why the system refuses to open a file. -/
def faultOf : IO.Error → FileFault
  | .noFileOrDirectory .. => .notFound
  | .inappropriateType _ code _ => if code = 20 then .notDirectory else .isDirectory
  | error => .refused (toString error)

def readFile (path : String) : IO (Except FileFault String) := do
  match ← (IO.FS.readFile path).toBaseIO with
  | .ok text => return .ok text
  | .error error => return .error (faultOf error)

def writeFile (path text : String) : IO (Except FileFault Unit) := do
  match ← (IO.FS.writeFile path text).toBaseIO with
  | .ok _ => return .ok ()
  | .error error => return .error (faultOf error)

/-- Something that cannot be read is there all the same. -/
def isThere (path : String) : IO Bool := do
  match ← readFile path with
  | .error .notFound | .error .notDirectory => return false
  | _ => return true

/-- Carries the requests of a script out on the system. -/
def Script.perform {α : Type} : Script α → IO (Except Stop α)
  | .done result => return .ok result
  | .stop reason => return .error reason
  | .isThere path next => do (next (← CommandLine.isThere path)).perform
  | .read path next => do (next (← readFile path)).perform
  | .write path text next => do (next (← writeFile path text)).perform
  | .print text next => do
      IO.print text
      next.perform

end Stencil.CommandLine

open Stencil.CommandLine in
def main (arguments : List String) : IO UInt32 := do
  let home ← IO.getEnv "HOME"
  let environmentValues ← variableNames.mapM fun name => return (name, ← IO.getEnv name)
  let environment := fun name => ((environmentValues.find? (·.1 == name)).map (·.2)).join
  let surroundings : Surroundings :=
    { environment, home, documents := .standard, orders := .ascending }
  match ← (@script programLimits surroundings arguments).perform with
  | .ok () => return 0
  | .error reason =>
      IO.eprint reason.report
      return UInt32.ofNat reason.exitCode
