import Stencil.Unicode.Word
import Stencil.Unicode.WhiteSpace

namespace Stencil.Text

open Unicode

/-! Cutting a text after a number of words or sentences. -/

/-- A kind of unit: how the next one is taken off the front of a text, with what stands before
it. -/
abbrev TakeUnit := List Char → Option (List Char × List Char)

def isWordUnit (c : Char) : Bool :=
  c = '-' || isWord c

/-- A word is a longest run of word characters and hyphens. -/
def takeWord : TakeUnit := fun text =>
  let gap := text.takeWhile (!isWordUnit ·)
  let rest := text.dropWhile (!isWordUnit ·)
  let word := rest.takeWhile isWordUnit
  if word.isEmpty then none else some (gap ++ word, rest.dropWhile isWordUnit)

def endsSentence (c : Char) : Bool :=
  c = '.' || c = '?' || c = '!'

def endsLine (c : Char) : Bool :=
  c = '\r' || c = '\n'

def isSentenceChar (c : Char) : Bool :=
  !endsSentence c && !endsLine c

/-- A sentence runs up to the end of its line, its end marks included, or up to the next line. -/
def takeSentence : TakeUnit := fun text =>
  let gap := text.takeWhile (!isSentenceChar ·)
  let rest := text.dropWhile (!isSentenceChar ·)
  let body := rest.takeWhile isSentenceChar
  let tail := rest.dropWhile isSentenceChar
  let ending := if tail.head?.any endsSentence then endsSentence else endsLine
  if body.isEmpty then none
  else some (gap ++ body ++ tail.takeWhile ending, tail.dropWhile ending)

/-- The text up to the end of the unit with the given number, unless there are fewer units. -/
def takeUnits (next : TakeUnit) : Nat → List Char → Option (List Char)
  | 0, _ => some []
  | count + 1, text => do
      let (taken, rest) ← next text
      let more ← takeUnits next count rest
      return taken ++ more

/-- Cuts a text after the given number of units, and then the white space at its end.  A text with
fewer units stays as it is. -/
def truncateAfter (next : TakeUnit) (count : Nat) (text : List Char) : List Char :=
  match takeUnits next count text with
  | some kept => trimEnd kept
  | none => text

end Stencil.Text
