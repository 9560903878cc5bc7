import Stencil.Config.Basic
import Stencil.Files.Basic
import Stencil.Template.KeywordValues

namespace Stencil.CommandLine

/-! Why a run fails, and how that is told. -/

/-- An assignment without an equals sign. -/
structure AssignmentFault where
  argument : String
deriving DecidableEq

def AssignmentFault.message (fault : AssignmentFault) : String :=
  "Invalid variable format '" ++ fault.argument ++ "'. Expected 'KEY=VALUE'"

inductive DocumentForm where
  | json
  | yaml
deriving DecidableEq

def DocumentForm.name : DocumentForm → String
  | .json => "JSON"
  | .yaml => "YAML"

inductive Failure where
  | configUnreadable (fault : FileFault)
  /-- The configuration file is no YAML document, or holds something else. -/
  | configMalformed
  | flag (fault : FlagFault)
  | delimiters (fault : DelimiterFault)
  | templateUnreadable (path : String) (fault : FileFault)
  | valuesUnreadable (path : String) (fault : FileFault)
  | valuesMalformed (path : String) (form : DocumentForm)
  | valuesNotMapping (path : String) (fault : ArgumentFault)
  | assignment (fault : AssignmentFault)
  | outputUnwritable (path : String) (fault : FileFault)

inductive Cause where
  | message (text : String)
  | malformed (form : DocumentForm)
  | file (fault : FileFault)

namespace Failure

def causes : Failure → List Cause
  | .configUnreadable fault => [.file fault]
  | .configMalformed => [.malformed .yaml]
  | .flag fault => [.message fault.message]
  | .delimiters fault => [.message ("Invalid delimiter configuration: " ++ fault.message)]
  | .templateUnreadable path fault =>
      [.message ("Failed to read template '" ++ path ++ "'"), .file fault]
  | .valuesUnreadable path fault =>
      [.message ("Failed to read values file '" ++ path ++ "'"), .file fault]
  | .valuesMalformed path form =>
      [.message ("Invalid " ++ form.name ++ " in values file '" ++ path ++ "'"), .malformed form]
  | .valuesNotMapping path fault =>
      [.message ("Values file '" ++ path ++ "' is not a mapping"), .message fault.message]
  | .assignment fault => [.message fault.message]
  | .outputUnwritable path fault =>
      [.message ("Failed to write output file '" ++ path ++ "'"), .file fault]

end Failure

def FileFault.message : FileFault → String
  | .notFound => "no such file or directory"
  | .notDirectory => "not a directory"
  | .isDirectory => "is a directory"
  | .refused reason => reason

def Cause.text : Cause → String
  | .message text => text
  | .malformed form => "not a valid " ++ form.name ++ " document of the expected form"
  | .file fault => FileFault.message fault

/-- What is written to the error output about a failure. -/
def Failure.report (failure : Failure) : String :=
  match failure.causes.map Cause.text with
  | [] => "Error\n"
  | [only] => "Error: " ++ only ++ "\n"
  | outermost :: inner =>
      "Error: " ++ outermost ++ "\n\nCaused by:\n" ++
        String.join (inner.map fun text => "    " ++ text ++ "\n")

end Stencil.CommandLine
