namespace Stencil.CommandLine

/-! Switches and how they stand among the other arguments of a command line.

A switch has a long name, and may have a letter.  Its value is the next argument or what follows in
the same one, after an equals sign if the switch is named in full.  Letters of switches without a
value can share a hyphen.  Nothing after two bare hyphens is a switch.
-/

inductive Switch where
  | help
  | version
  | verbose
  | noColor
  | config
  | keywordDelimiter
  | modifierDelimiter
  | parameterDelimiter
  | caseSensitive
  | assignment
  | values
  | output
deriving DecidableEq

namespace Switch

def name : Switch → String
  | .help => "help"
  | .version => "version"
  | .verbose => "verbose"
  | .noColor => "no-color"
  | .config => "config"
  | .keywordDelimiter => "kwd-delim"
  | .modifierDelimiter => "mod-delim"
  | .parameterDelimiter => "param-delim"
  | .caseSensitive => "case-sensitive"
  | .assignment => "var"
  | .values => "values"
  | .output => "output"

def letter? : Switch → Option Char
  | .help => some 'h'
  | .version => some 'V'
  | .verbose => some 'v'
  | .config => some 'c'
  | .assignment => some 'V'
  | .output => some 'o'
  | _ => none

def takesValue : Switch → Bool
  | .help | .version | .verbose | .noColor | .caseSensitive => false
  | _ => true

/-- Tests for the switches whose value is a path, which is not empty. -/
def takesPath : Switch → Bool
  | .config | .values | .output => true
  | _ => false

def delimiters : List Switch :=
  [.keywordDelimiter, .modifierDelimiter, .parameterDelimiter, .caseSensitive]

/-- The switches that can stand before and after the command. -/
def everywhere : List Switch :=
  [.help, .verbose, .config, .noColor] ++ delimiters

end Switch

/-- Why the reading of a command line ends early. -/
inductive Interruption where
  /-- The arguments make no sense. -/
  | usage
  | help
  | version
deriving DecidableEq

/-- The arguments on one side of the command. -/
structure Level where
  /-- The switches in the order in which they are given, with their values. -/
  given : List (Switch × String) := []
  operands : List String := []
  /-- The command and the arguments after it. -/
  command : Option (String × List String) := none

namespace Level

/-- Adds a switch.  Only assignments can be repeated. -/
def give (level : Level) (switch : Switch) (value : String) : Except Interruption Level :=
  if switch = .help then .error .help
  else if switch = .version then .error .version
  else if switch != .assignment && level.given.any (·.1 == switch) then .error .usage
  else if switch.takesPath && value.isEmpty then .error .usage
  else .ok { level with given := level.given ++ [(switch, value)] }

/-- Adds a path that no switch precedes, unless there are `limit` of them. -/
def addOperand (level : Level) (limit : Nat) (value : String) : Except Interruption Level :=
  if level.operands.length < limit && !value.isEmpty then
    .ok { level with operands := level.operands ++ [value] }
  else .error .usage

/-- Reads the letters after a hyphen.  Also gives the switch whose value is the next argument, if
there is one. -/
def giveLetters (scope : List Switch) (level : Level) :
    List Char → Except Interruption (Level × Option Switch)
  | [] => .ok (level, none)
  | c :: rest =>
      match scope.find? (·.letter? == some c) with
      | none => .error .usage
      | some switch =>
          if switch.takesValue then
            match rest with
            | [] => .ok (level, some switch)
            | '=' :: value => do return (← level.give switch (String.ofList value), none)
            | value => do return (← level.give switch (String.ofList value), none)
          else do giveLetters scope (← level.give switch "") rest

/-- Reads the name of a switch after two hyphens, with its value if an equals sign follows. -/
def giveName (scope : List Switch) (level : Level) (text : List Char) :
    Except Interruption (Level × Option Switch) :=
  let name := text.takeWhile (· != '=')
  match scope.find? (·.name.toList == name), text.dropWhile (· != '=') with
  | none, _ => .error .usage
  | some switch, [] =>
      if switch.takesValue then .ok (level, some switch)
      else do return (← level.give switch "", none)
  | some switch, _ :: value =>
      if switch.takesValue then do return (← level.give switch (String.ofList value), none)
      else .error .usage

/-- Tests for the arguments that cannot be values of the switch before them. -/
def isSwitchLike (argument : String) : Bool :=
  argument.toList.head? = some '-' && argument != "-"

/-- Reads an argument that looks like a switch.  Also gives the switch whose value is the next
argument, if there is one. -/
def giveArgument (scope : List Switch) (level : Level) (argument : String) :
    Except Interruption (Level × Option Switch) :=
  match argument.toList with
  | '-' :: '-' :: text => giveName scope level text
  | text => giveLetters scope level text.tail

/-- Reads arguments with the switches in scope, of which one may be waiting for its value.  If the
arguments may hold a command it ends this level; otherwise at most `limit` arguments can be no
switches. -/
def read (scope : List Switch) (commands : Bool) (limit : Nat) (level : Level) :
    Option Switch → List String → Except Interruption Level
  | none, [] => .ok level
  | some _, [] => .error .usage
  | some switch, value :: rest => do
      if isSwitchLike value then throw .usage
      else read scope commands limit (← level.give switch value) none rest
  | none, argument :: rest => do
      if argument = "--" then rest.foldlM (fun level value => level.addOperand limit value) level
      else if isSwitchLike argument then
        let (level, pending) ← level.giveArgument scope argument
        read scope commands limit level pending rest
      else if commands then return { level with command := some (argument, rest) }
      else read scope commands limit (← level.addOperand limit argument) none rest

def value? (level : Level) (switch : Switch) : Option String :=
  (level.given.find? (·.1 == switch)).map (·.2)

/-- All values of a switch in order. -/
def valuesOf (level : Level) (switch : Switch) : List String :=
  (level.given.filter (·.1 == switch)).map (·.2)

end Level

end Stencil.CommandLine
