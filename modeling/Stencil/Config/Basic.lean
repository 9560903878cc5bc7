import Stencil.Data.Dictionary
import Stencil.Template.Delimiters

namespace Stencil

/-! The configuration of a run: delimiters, values for keywords, and how to log.

A setting on the command line wins over one in the environment, which wins over the configuration
file, which wins over the default.  In a configuration file every section can be missing, and so can
the fields of the delimiters, but a logging section has both of its fields.
-/

structure Logging where
  level : String := "warn"
  format : String := "pretty"
deriving DecidableEq

structure Config where
  delimiters : DelimiterSettings := {}
  /-- Values that keywords have before any others are read. -/
  values : Dictionary String := .empty
  logging : Logging := {}

/-- The fields of a section of delimiters. -/
structure DelimiterFields where
  keyword : Option String := none
  modifier : Option String := none
  parameter : Option String := none
  caseSensitive : Option Bool := none

/-- What a configuration file gives. -/
structure FileSettings where
  delimiters : Option DelimiterFields := none
  values : Option (Dictionary String) := none
  logging : Option Logging := none

def DelimiterSettings.ofFields (fields : DelimiterFields) : DelimiterSettings :=
  let defaults : DelimiterSettings := {}
  { keyword := fields.keyword.getD defaults.keyword
    modifier := fields.modifier.getD defaults.modifier
    parameter := fields.parameter.getD defaults.parameter
    caseSensitive := fields.caseSensitive.getD defaults.caseSensitive }

/-- The configuration of a file, with the defaults for what is missing in it. -/
def Config.ofSettings (settings : FileSettings) : Config where
  delimiters := settings.delimiters.elim {} .ofFields
  values := settings.values.getD .empty
  logging := settings.logging.getD {}

/-- The values of the variables of an environment. -/
abbrev Environment := String → Option String

/-- A variable that is neither true nor false. -/
structure FlagFault where
  name : String
  value : String
deriving DecidableEq

def FlagFault.message (fault : FlagFault) : String :=
  "Invalid boolean '" ++ fault.value ++ "' for " ++ fault.name

/-- The words for true and false, in lowercase.  An empty text is false. -/
def flagOf? (word : String) : Option Bool :=
  if ["1", "true", "yes", "on"].contains word then some true
  else if ["0", "false", "no", "off", ""].contains word then some false
  else none

/-- Reads a word with white space around it and in any case. -/
def readFlag (name value : String) : Except FlagFault Bool :=
  let word := String.ofList ((Unicode.trim value.toList).map Char.toLower)
  match flagOf? word with
  | some flag => .ok flag
  | none => .error ⟨name, word⟩

/-- The delimiter settings of a command line. -/
structure DelimiterOverrides where
  keyword : Option String := none
  modifier : Option String := none
  parameter : Option String := none
  caseSensitive : Bool := false
deriving DecidableEq

namespace Config

def caseSensitiveVariable : String := "KWDMOD_CASE_SENSITIVE"

/-- Applies the variables that are set, even to an empty text. -/
def withEnvironment (config : Config) (environment : Environment) : Except FlagFault Config := do
  let caseSensitive ←
    match environment caseSensitiveVariable with
    | none => pure config.delimiters.caseSensitive
    | some value => readFlag caseSensitiveVariable value
  return { config with
    delimiters :=
      { keyword := (environment "KWDMOD_KWD_DELIM").getD config.delimiters.keyword
        modifier := (environment "KWDMOD_MOD_DELIM").getD config.delimiters.modifier
        parameter := (environment "KWDMOD_PARAM_DELIM").getD config.delimiters.parameter
        caseSensitive }
    logging :=
      { level := (environment "KWDMOD_LOG_LEVEL").getD config.logging.level
        format := (environment "KWDMOD_LOG_FORMAT").getD config.logging.format } }

/-- Applies the settings of a command line. -/
def withOverrides (config : Config) (overrides : DelimiterOverrides) : Config :=
  { config with
    delimiters :=
      { keyword := overrides.keyword.getD config.delimiters.keyword
        modifier := overrides.modifier.getD config.delimiters.modifier
        parameter := overrides.parameter.getD config.delimiters.parameter
        caseSensitive := overrides.caseSensitive || config.delimiters.caseSensitive } }

end Config

end Stencil
