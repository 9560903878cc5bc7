import Stencil.Unicode.Numeric
import Stencil.Unicode.WhiteSpace
import Stencil.Unicode.Casing

namespace Stencil

/-! The delimiters of a template language: four characters that open and close a keyword and set
off its modifiers and their parameters.

Settings are texts as a caller supplies them.  `DelimiterSettings.validate` turns them into
`Delimiters`, whose invariants say that the four roles can be told apart from each other and from
the characters of names.
-/

/-- Tests for the characters that may stand in names and so cannot be delimiters. -/
def isReserved (c : Char) : Bool :=
  Unicode.isAlphanumeric c || Unicode.isWhiteSpace c || c = '_' || c = '-'

/-- A character that can be a delimiter: not reserved for names, and not the escape character. -/
def isDelimiterChar (c : Char) : Bool :=
  !isReserved c && c != '\\'

structure DelimiterSettings where
  keyword : String := "\x7b"
  modifier : String := "^"
  parameter : String := ":"
  caseSensitive : Bool := false
deriving DecidableEq

structure Delimiters where
  opening : Char
  closing : Char
  modifier : Char
  parameter : Char
  caseSensitive : Bool
  opening_allowed : isDelimiterChar opening = true
  closing_allowed : isDelimiterChar closing = true
  modifier_allowed : isDelimiterChar modifier = true
  parameter_allowed : isDelimiterChar parameter = true
  modifier_distinct : modifier ≠ opening ∧ modifier ≠ closing
  parameter_distinct : parameter ≠ opening ∧ parameter ≠ closing ∧ parameter ≠ modifier
deriving DecidableEq

inductive DelimiterSetting where
  | keyword
  | modifier
  | parameter
deriving DecidableEq

/-- The name under which a setting is known to users. -/
def DelimiterSetting.name : DelimiterSetting → String
  | .keyword => "kwd_delim"
  | .modifier => "mod_delim"
  | .parameter => "param_delim"

/-- Why settings are refused. -/
inductive DelimiterFault where
  /-- The keyword delimiter has no or more than two characters. -/
  | notPair (value : String)
  /-- Another delimiter is not a single character. -/
  | notSingle (setting : DelimiterSetting) (value : String)
  | reserved (setting : DelimiterSetting) (c : Char)
  | backslash (setting : DelimiterSetting)
  | modifierTaken (modifier opening closing : Char)
  | parameterTaken (parameter opening closing modifier : Char)
deriving DecidableEq

namespace DelimiterFault

def setting : DelimiterFault → DelimiterSetting
  | .notPair _ => .keyword
  | .notSingle setting _ => setting
  | .reserved setting _ => setting
  | .backslash setting => setting
  | .modifierTaken .. => .modifier
  | .parameterTaken .. => .parameter

def hexText (n : Nat) : String :=
  String.ofList (Nat.toDigits 16 n)

/-- A reserved character as messages show it: printable ASCII as it is, the rest by escapes. -/
def shown (c : Char) : String :=
  if c = '\t' then "\\t"
  else if c = '\r' then "\\r"
  else if c = '\n' then "\\n"
  else if 0x20 ≤ c.toNat ∧ c.toNat ≤ 0x7E then String.singleton c
  else "\\u\x7b" ++ hexText c.toNat ++ "\x7d"

def reason : DelimiterFault → String
  | .notPair value =>
      "\"" ++ value ++ "\" must be a single character or a start/end pair of characters"
  | .notSingle _ value => "\"" ++ value ++ "\" was more than, or less than, one character"
  | .reserved _ c =>
      "'" ++ shown c ++ "' is alphanumeric, white space, an underscore or a hyphen, " ++
        "which are reserved for keyword names"
  | .backslash _ => "a backslash is reserved for escaping delimiters"
  | .modifierTaken modifier opening closing =>
      "'" ++ String.singleton modifier ++ "' cannot be the same as the keyword delimiters ('" ++
        String.singleton opening ++ "' or '" ++ String.singleton closing ++ "')"
  | .parameterTaken parameter opening closing modifier =>
      "'" ++ String.singleton parameter ++ "' cannot be the same as the keyword delimiters ('" ++
        String.singleton opening ++ "' or '" ++ String.singleton closing ++
        "') or the modifier delimiter ('" ++ String.singleton modifier ++ "')"

def message (fault : DelimiterFault) : String :=
  "Invalid delimiter configuration for " ++ fault.setting.name ++ ": " ++ fault.reason

end DelimiterFault

/-- The pair that a bracket of either direction belongs to. -/
def bracketPair? (c : Char) : Option (Char × Char) :=
  match c with
  | '\x7b' | '\x7d' => some ('\x7b', '\x7d')
  | '(' | ')' => some ('(', ')')
  | '[' | ']' => some ('[', ']')
  | '<' | '>' => some ('<', '>')
  | _ => none

/-- Refuses a character that cannot be a delimiter. -/
def checkDelimiterChar (setting : DelimiterSetting) (c : Char) : Except DelimiterFault Unit :=
  if isReserved c then .error (.reserved setting c)
  else if c = '\\' then .error (.backslash setting)
  else .ok ()

/-- The opening and closing character of a keyword setting. -/
def keywordPair (value : String) : Except DelimiterFault (Char × Char) :=
  match value.toList with
  | [c] => do
      checkDelimiterChar .keyword c
      return (bracketPair? c).getD (c, c)
  | [opening, closing] => do
      checkDelimiterChar .keyword opening
      checkDelimiterChar .keyword closing
      return (opening, closing)
  | _ => .error (.notPair value)

def singleDelimiter (setting : DelimiterSetting) (value : String) : Except DelimiterFault Char :=
  match value.toList with
  | [c] => do
      checkDelimiterChar setting c
      return c
  | _ => .error (.notSingle setting value)

theorem checkDelimiterChar_ok {setting : DelimiterSetting} {c : Char}
    (accepted : checkDelimiterChar setting c = .ok ()) : isDelimiterChar c = true := by
  unfold checkDelimiterChar at accepted
  split at accepted
  · contradiction
  · split at accepted
    · contradiction
    · next reserved backslash => simp [isDelimiterChar, reserved, backslash]

theorem bracketPair?_allowed {c opening closing : Char}
    (found : bracketPair? c = some (opening, closing)) :
    isDelimiterChar opening = true ∧ isDelimiterChar closing = true := by
  unfold bracketPair? at found
  split at found <;> first | contradiction | skip
  all_goals
    simp only [Option.some.injEq, Prod.mk.injEq] at found
    obtain ⟨rfl, rfl⟩ := found
    decide +kernel

theorem keywordPair_ok {value : String} {opening closing : Char}
    (accepted : keywordPair value = .ok (opening, closing)) :
    isDelimiterChar opening = true ∧ isDelimiterChar closing = true := by
  unfold keywordPair at accepted
  split at accepted
  · next c _ =>
      cases checked : checkDelimiterChar .keyword c with
      | error fault => simp [checked, bind, Except.bind] at accepted
      | ok =>
          simp only [checked, bind, Except.bind, pure, Except.pure, Except.ok.injEq] at accepted
          cases bracket : bracketPair? c with
          | none =>
              simp only [bracket, Option.getD_none, Prod.mk.injEq] at accepted
              obtain ⟨rfl, rfl⟩ := accepted
              exact ⟨checkDelimiterChar_ok checked, checkDelimiterChar_ok checked⟩
          | some pair =>
              simp only [bracket, Option.getD_some] at accepted
              subst accepted
              exact bracketPair?_allowed bracket
  · next first second _ =>
      cases firstChecked : checkDelimiterChar .keyword first with
      | error fault => simp [firstChecked, bind, Except.bind] at accepted
      | ok =>
          cases secondChecked : checkDelimiterChar .keyword second with
          | error fault => simp [firstChecked, secondChecked, bind, Except.bind] at accepted
          | ok =>
              simp only [firstChecked, secondChecked, bind, Except.bind, pure, Except.pure,
                Except.ok.injEq, Prod.mk.injEq] at accepted
              obtain ⟨rfl, rfl⟩ := accepted
              exact ⟨checkDelimiterChar_ok firstChecked, checkDelimiterChar_ok secondChecked⟩
  · contradiction

theorem singleDelimiter_ok {setting : DelimiterSetting} {value : String} {c : Char}
    (accepted : singleDelimiter setting value = .ok c) : isDelimiterChar c = true := by
  unfold singleDelimiter at accepted
  split at accepted
  · next only _ =>
      cases checked : checkDelimiterChar setting only with
      | error fault => simp [checked, bind, Except.bind] at accepted
      | ok =>
          simp only [checked, bind, Except.bind, pure, Except.pure, Except.ok.injEq] at accepted
          exact accepted ▸ checkDelimiterChar_ok checked
  · contradiction

/-- The delimiters that the settings describe, or the first fault: the shape of each setting is
checked before any two are compared. -/
def DelimiterSettings.validate (settings : DelimiterSettings) :
    Except DelimiterFault Delimiters :=
  match pairOk : keywordPair settings.keyword with
  | .error fault => .error fault
  | .ok (opening, closing) =>
    match modifierOk : singleDelimiter .modifier settings.modifier with
    | .error fault => .error fault
    | .ok modifier =>
      match parameterOk : singleDelimiter .parameter settings.parameter with
      | .error fault => .error fault
      | .ok parameter =>
        if modifierFree : modifier ≠ opening ∧ modifier ≠ closing then
          if parameterFree :
              parameter ≠ opening ∧ parameter ≠ closing ∧ parameter ≠ modifier then
            .ok
              { opening, closing, modifier, parameter
                caseSensitive := settings.caseSensitive
                opening_allowed := (keywordPair_ok pairOk).1
                closing_allowed := (keywordPair_ok pairOk).2
                modifier_allowed := singleDelimiter_ok modifierOk
                parameter_allowed := singleDelimiter_ok parameterOk
                modifier_distinct := modifierFree
                parameter_distinct := parameterFree }
          else .error (.parameterTaken parameter opening closing modifier)
        else .error (.modifierTaken modifier opening closing)

namespace Delimiters

/-- The delimiters of a caller who sets none. -/
def standard : Delimiters where
  opening := '\x7b'
  closing := '\x7d'
  modifier := '^'
  parameter := ':'
  caseSensitive := false
  opening_allowed := by decide +kernel
  closing_allowed := by decide +kernel
  modifier_allowed := by decide +kernel
  parameter_allowed := by decide +kernel
  modifier_distinct := by decide
  parameter_distinct := by decide

instance : Inhabited Delimiters := ⟨standard⟩

/-- A keyword name as the tables of a template know it: without regard to case unless the
delimiters are case sensitive. -/
def foldName (d : Delimiters) (name : String) : String :=
  if d.caseSensitive then name else String.ofList (Unicode.uppercase name.toList)

def isEscapable (d : Delimiters) (c : Char) : Bool :=
  c = d.modifier || c = d.parameter || c = d.closing || c = d.opening || c = '%'

/-- Removes the backslash in front of every escapable character.  Any other backslash stays, and
the character after it is read afresh. -/
def unescape (d : Delimiters) : List Char → List Char
  | [] => []
  | [c] => [c]
  | c :: next :: rest =>
      if c = '\\' ∧ d.isEscapable next then next :: d.unescape rest
      else c :: d.unescape (next :: rest)

end Delimiters

end Stencil
