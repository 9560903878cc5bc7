import Stencil.CommandLine.Arguments
import Stencil.CommandLine.Render

namespace Stencil.CommandLine

/-! Running a command line. -/

def programVersion : String := "kwdmod 0.1.0\n"

def helpText : String :=
  "Usage: kwdmod [OPTIONS] <COMMAND>\n\n" ++
  "Commands:\n" ++
  "  render <TEMPLATE> [-V KEY=VALUE]... [--values FILE] [-o FILE]\n" ++
  "  keywords <TEMPLATE>\n" ++
  "  modifiers\n" ++
  "  check\n\n" ++
  "Options:\n" ++
  "  -v, --verbose\n" ++
  "  -c, --config FILE\n" ++
  "  --no-color\n" ++
  "  --kwd-delim TEXT\n" ++
  "  --mod-delim TEXT\n" ++
  "  --param-delim TEXT\n" ++
  "  --case-sensitive\n" ++
  "  -h, --help\n" ++
  "  -V, --version\n"

/-- What a run is given besides its arguments and the files. -/
structure Surroundings where
  environment : Environment
  home : Option String
  documents : DocumentReaders
  orders : Orders

/-- The name of the configuration file if there is none. -/
def defaultConfigName : String := "kwdmod.yaml"

def configPlaces (home : Option String) : List String :=
  [defaultConfigName, "kwdmod.yml", ".kwdmod.yaml", ".kwdmod.yml"] ++
    (home.map fun home => home ++ "/.kwdmod/config.yaml").toList

/-- The first of some paths that leads to something. -/
def firstThere : List String → Script (Option String)
  | [] => .done none
  | path :: rest => .isThere path fun found =>
      if found then .done (some path) else firstThere rest

/-- The path of the configuration file: the given one, or else the first of the usual ones. -/
def findConfig (home : Option String) : Option String → Script String
  | some path => .done path
  | none => do return (← firstThere (configPlaces home)).getD defaultConfigName

/-- The configuration that is written in a file. -/
def configOf (documents : DocumentReaders) (text : String) : Except Failure Config :=
  match documents.settings text with
  | none => .error .configMalformed
  | some settings => .ok (.ofSettings settings)

/-- The configuration of a file, or the defaults if there is no file. -/
def loadFile (documents : DocumentReaders) (path : String) : Script Config :=
  .isThere path fun found =>
    if found then do
      let text ← .readText path .configUnreadable
      .orFail (configOf documents text)
    else .done {}

/-- The configuration in effect. -/
def loadConfig (surroundings : Surroundings) (arguments : Arguments) : Script Config := do
  let path ← findConfig surroundings.home arguments.config
  let config ← loadFile surroundings.documents path
  let config ← .orFail ((config.withEnvironment surroundings.environment).mapError Failure.flag)
  return config.withOverrides arguments.overrides

def describe (d : Delimiters) : List String :=
  let enclosed (text : String) := String.singleton d.opening ++ text ++ String.singleton d.closing
  let call := "NAME" ++ String.singleton d.modifier ++ "modifier" ++
    String.singleton d.parameter ++ "param"
  [ "✓ Delimiter configuration is valid"
  , "  Keyword: " ++ enclosed "NAME"
  , "  Modifier: " ++ enclosed call
  , "  Case sensitive: " ++ (if d.caseSensitive then "true" else "false") ]

/-- Writes a text into a file, or prints it if there is none to write. -/
def emit (text : String) : Option String → Script Unit
  | none => .print text (.done ())
  | some path => .write path text fun answer =>
      .orFail (answer.mapError (Failure.outputUnwritable path))

def runCommand [Regex.Limits] (surroundings : Surroundings) (config : Config) :
    Command → Script Unit
  | .render template assignments values output => do
      let text ← render surroundings.documents surroundings.orders config template assignments
        values
      emit text output
  | .keywords template => do
      let d ← .orFail (validDelimiters config)
      let source ← readTemplate template
      .printLines (keywordLines d source)
  | .modifiers => .printLines Registry.builtin.names
  | .check => do
      let d ← .orFail (validDelimiters config)
      .printLines (describe d)

/-- All that is done for a command line. -/
def script [Regex.Limits] (surroundings : Surroundings) (arguments : List String) : Script Unit :=
  match Arguments.parse arguments with
  | .error .usage => .stop .misused
  | .error .help => .print helpText (.done ())
  | .error .version => .print programVersion (.done ())
  | .ok arguments => do
      let config ← loadConfig surroundings arguments
      runCommand surroundings config arguments.command

def Stop.exitCode : Stop → Nat
  | .failed _ => 1
  | .misused => 2
  | .brokenOff => 101

def Stop.report : Stop → String
  | .failed failure => failure.report
  | .misused => helpText
  | .brokenOff => "a modifier broke off\n"

/-- The exit code of a run and what it has written to the standard and to the error output. -/
structure Outcome where
  exitCode : Nat
  output : String := ""
  errors : String := ""
deriving DecidableEq

def Outcome.ofEnd (ended : Except Stop Unit) (output : String) : Outcome :=
  match ended with
  | .ok () => { exitCode := 0, output }
  | .error reason => { exitCode := reason.exitCode, output, errors := reason.report }

def run [Regex.Limits] (surroundings : Surroundings) (files : Files) (arguments : List String) :
    Outcome × Files :=
  let (ended, after) := (script surroundings arguments).run { files }
  (.ofEnd ended after.output, after.files)

end Stencil.CommandLine
