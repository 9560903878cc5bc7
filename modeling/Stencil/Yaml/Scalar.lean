import Stencil.Text.HexDigit

namespace Stencil.Yaml

/-! Scalars as documents write them: plain, in single quotes and in double quotes.

A scalar may go over several lines.  Between its words one line break stands for a blank, and each
further one for itself.
-/

structure Scalar where
  content : List Char
  /-- Says that the scalar goes over several lines. -/
  broken : Bool

def isBlank (c : Char) : Bool :=
  c = ' ' || c = '\t'

/-- Tests whether a blank, a line break or the end of the text follows. -/
def endsWord : List Char → Bool
  | [] => true
  | c :: _ => isBlank c || c = '\n'

def skipBlanks (text : List Char) : List Char :=
  text.dropWhile isBlank

/-- Tests for three characters of one kind and nothing more: a line that starts so separates
documents. -/
def isDocumentMark : List Char → Bool
  | '-' :: '-' :: '-' :: rest => endsWord rest
  | '.' :: '.' :: '.' :: rest => endsWord rest
  | _ => false

/-- What stands between two words of a scalar. -/
structure Gap where
  /-- The blanks before the first line break. -/
  blanks : List Char
  breaks : Nat
  /-- The number of blanks after the last line break. -/
  column : Nat
  /-- Says that a line is indented with a tab where it may not be. -/
  tabbed : Bool

namespace Gap

def readFrom (least : Nat) (gap : Gap) : List Char → Gap × List Char
  | [] => (gap, [])
  | c :: rest =>
      if c = '\n' then readFrom least { gap with breaks := gap.breaks + 1, column := 0 } rest
      else if isBlank c then
        if gap.breaks = 0 then readFrom least { gap with blanks := gap.blanks ++ [c] } rest
        else
          let tabbed := gap.tabbed || (c = '\t' && gap.column < least)
          readFrom least { gap with column := gap.column + 1, tabbed } rest
      else (gap, c :: rest)

def read (least : Nat) (text : List Char) : Gap × List Char :=
  readFrom least ⟨[], 0, 0, false⟩ text

/-- Reads a gap after a line break that does not count. -/
def readAfterBreak (text : List Char) : Gap × List Char :=
  readFrom 0 ⟨[], 1, 0, false⟩ text

def content (gap : Gap) : List Char :=
  match gap.breaks with
  | 0 => gap.blanks
  | 1 => [' ']
  | more + 1 => List.replicate more '\n'

end Gap

/-- Tests for the characters that structure flow collections. -/
def isFlowMark (c : Char) : Bool :=
  c = ',' || c = '[' || c = ']' || c = '\x7b' || c = '\x7d'

/-- Tests for the characters with a meaning of their own, with which no plain scalar starts. -/
def isIndicator (c : Char) : Bool :=
  "-?:,[]\x7b\x7d#&*!|>'\"%@\x60".toList.contains c

/-- Tests whether a plain scalar starts here.  A hyphen can start one if no blank follows, and
outside flow collections so can a question mark and a colon. -/
def startsPlain (flow : Bool) : List Char → Bool
  | [] => false
  | c :: rest =>
      (!isIndicator c && !endsWord (c :: rest)) ||
        (c = '-' && !(rest.head?.any isBlank)) ||
        (!flow && (c = '?' || c = ':') && !endsWord rest)

/-- Reads a word of a plain scalar.  A colon ends it if a blank follows; in a flow collection the
marks of the collection end it, and a colon in front of one is refused. -/
def readWord (flow : Bool) : Reader (List Char)
  | [] => some ([], [])
  | c :: rest =>
      if endsWord (c :: rest) then some ([], c :: rest)
      else if flow && c = ':' && rest.head?.any (fun d => d = '?' || isFlowMark d) then none
      else if (c = ':' && endsWord rest) || (flow && isFlowMark c) then some ([], c :: rest)
      else (readWord flow rest).map fun (word, rest) => (c :: word, rest)

/-- Reads on in a plain scalar after one of its words.  Outside flow collections its lines start at
the column `least` or later. -/
def readWords (flow : Bool) (least : Nat) (broken : Bool) : Nat → Reader Scalar
  | 0, _ => none
  | fuel + 1, text =>
      let (gap, next) := Gap.read least text
      if gap.tabbed then none
      else if (gap.blanks.isEmpty && gap.breaks = 0) || next.head? = some '#' ||
          (0 < gap.breaks && gap.column = 0 && isDocumentMark next) ||
          (0 < gap.breaks && !flow && gap.column < least) then
        some (⟨[], broken⟩, text)
      else do
        let (word, rest) ← readWord flow next
        if word.isEmpty then return (⟨[], broken⟩, text)
        else
          let (more, rest) ← readWords flow least (broken || 0 < gap.breaks) fuel rest
          return ({ more with content := gap.content ++ word ++ more.content }, rest)

def readPlain (flow : Bool) (least : Nat) : Reader Scalar := fun text =>
  if startsPlain flow text then do
    let (word, rest) ← readWord flow text
    let (more, rest) ← readWords flow least false (text.length + 1) rest
    return ({ more with content := word ++ more.content }, rest)
  else none

/-- The character that a letter after a backslash stands for. -/
def escaped? : Char → Option Char
  | '0' => some '\x00'
  | 'a' => some '\x07'
  | 'b' => some '\x08'
  | 't' | '\t' => some '\t'
  | 'n' => some '\n'
  | 'v' => some '\x0b'
  | 'f' => some '\x0c'
  | 'r' => some '\r'
  | 'e' => some '\x1b'
  | ' ' => some ' '
  | '"' => some '"'
  | '/' => some '/'
  | '\\' => some '\\'
  | 'N' => some '\u0085'
  | '_' => some '\u00a0'
  | 'L' => some '\u2028'
  | 'P' => some '\u2029'
  | _ => none

/-- The number of hexadecimal digits after a letter that starts a numeric escape. -/
def escapeLength? : Char → Option Nat
  | 'x' => some 2
  | 'u' => some 4
  | 'U' => some 8
  | _ => none

def readEscape : Reader Char
  | [] => none
  | c :: rest =>
      match escapeLength? c with
      | some length => do
          let (code, rest) ← Text.readHexDigits length rest
          if code.isValidChar then return (Char.ofNat code, rest) else none
      | none => (escaped? c).map fun e => (e, rest)

/-- Reads what is left of a scalar in quotes. -/
def readQuotedFrom (quote : Char) : Nat → Bool → Reader Scalar
  | 0, _, _ => none
  | _ + 1, _, [] => none
  | fuel + 1, broken, c :: rest =>
      if c = quote then
        if quote = '\'' ∧ rest.head? = some quote then do
          let (more, rest) ← readQuotedFrom quote fuel broken rest.tail
          return ({ more with content := c :: more.content }, rest)
        else some (⟨[], broken⟩, rest)
      else if endsWord (c :: rest) then do
        let (gap, next) := Gap.read 0 (c :: rest)
        if 0 < gap.breaks && gap.column = 0 && isDocumentMark next then none
        else
          let (more, rest) ← readQuotedFrom quote fuel (broken || 0 < gap.breaks) next
          return ({ more with content := gap.content ++ more.content }, rest)
      else if quote = '"' ∧ c = '\\' then
        match rest with
        | '\n' :: rest => do
            let (gap, next) := Gap.readAfterBreak rest
            let (more, rest) ← readQuotedFrom quote fuel true next
            return ({ more with
              content := List.replicate (gap.breaks - 1) '\n' ++ more.content }, rest)
        | _ => do
            let (e, rest) ← readEscape rest
            let (more, rest) ← readQuotedFrom quote fuel broken rest
            return ({ more with content := e :: more.content }, rest)
      else do
        let (more, rest) ← readQuotedFrom quote fuel broken rest
        return ({ more with content := c :: more.content }, rest)

def readQuoted (quote : Char) : Reader Scalar := fun text =>
  readQuotedFrom quote (text.length + 1) false text

end Stencil.Yaml
