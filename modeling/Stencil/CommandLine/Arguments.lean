import Stencil.CommandLine.Options
import Stencil.Config.Basic

namespace Stencil.CommandLine

/-! What a command line asks for. -/

inductive Command where
  /-- Fill in the template in a file. -/
  | render (template : String) (assignments : List String) (values output : Option String)
  /-- List the keywords of the template in a file. -/
  | keywords (template : String)
  /-- List the modifiers. -/
  | modifiers
  /-- Check the delimiters. -/
  | check
deriving DecidableEq

structure Arguments where
  command : Command
  config : Option String
  overrides : DelimiterOverrides
  /-- Asks for a detailed log. -/
  verbose : Bool
  /-- Asks for a log without colors. -/
  noColor : Bool
deriving DecidableEq

def outerScope : List Switch :=
  .version :: Switch.everywhere

def renderScope : List Switch :=
  [.assignment, .values, .output] ++ Switch.everywhere

/-- The overrides given on two levels, of which the inner one wins. -/
def overridesOf (outer inner : Level) : DelimiterOverrides :=
  let value? (switch : Switch) := inner.value? switch <|> outer.value? switch
  { keyword := value? .keywordDelimiter
    modifier := value? .modifierDelimiter
    parameter := value? .parameterDelimiter
    caseSensitive := (value? .caseSensitive).isSome }

def argumentsOf (command : Command) (outer inner : Level) : Arguments :=
  let value? (switch : Switch) := inner.value? switch <|> outer.value? switch
  { command
    config := value? .config
    overrides := overridesOf outer inner
    verbose := (value? .verbose).isSome
    noColor := (value? .noColor).isSome }

/-- Reads the arguments after the name of a command. -/
def readCommand (name : String) (arguments : List String) :
    Except Interruption (Command × Level) :=
  match name with
  | "render" => do
      let level ← Level.read renderScope false 1 {} none arguments
      match level.operands with
      | [template] =>
          let command := .render template (level.valuesOf .assignment) (level.value? .values)
            (level.value? .output)
          return (command, level)
      | _ => throw .usage
  | "keywords" => do
      let level ← Level.read Switch.everywhere false 1 {} none arguments
      match level.operands with
      | [template] => return (.keywords template, level)
      | _ => throw .usage
  | "modifiers" => do
      return (.modifiers, ← Level.read Switch.everywhere false 0 {} none arguments)
  | "check" => do
      return (.check, ← Level.read Switch.everywhere false 0 {} none arguments)
  | _ => throw .usage

def commandNames : List String :=
  ["render", "keywords", "modifiers", "check", "help"]

/-- Reads the arguments after the name of the program. -/
def Arguments.parse (arguments : List String) : Except Interruption Arguments := do
  let outer ← Level.read outerScope true 0 {} none arguments
  match outer.command with
  | none => throw .usage
  | some ("help", topics) =>
      match topics with
      | [] => throw .help
      | [topic] => if commandNames.contains topic then throw .help else throw .usage
      | _ => throw .usage
  | some (name, rest) =>
      let (command, inner) ← readCommand name rest
      return argumentsOf command outer inner

def DelimiterOverrides.parse (arguments : List String) :
    Except Interruption DelimiterOverrides := do
  let level ← Level.read Switch.delimiters false 0 {} none arguments
  return overridesOf {} level

end Stencil.CommandLine
