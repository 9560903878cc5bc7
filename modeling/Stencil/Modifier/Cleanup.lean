import Stencil.Modifier.Registry
import Stencil.Value.Numeric
import Stencil.Text.CssName
import Stencil.Text.LineBreaks
import Stencil.Text.Truncate
import Stencil.Markup.Strip

namespace Stencil.Modifier

/-! Modifiers that clean texts up: markup, blank lines and length.

The plain text modifier and the ones that limit length are made of other modifiers, which they find
by name when they are resolved.
-/

def plainTextName : String := "text"

def plainTextSteps : List String :=
  ["stripcdata", "stripscript", "stripstyle", "stripcomments"]

/-- Strips code as the registry's own modifiers do it. -/
def plainText : Modifier where
  steps? _ := some (plainTextSteps.map .call)

def countLimit : Nat := UInt64.size - 1

/-- A parameter as a positive whole number, rounded. -/
def positiveCount? (param : Option String) : Option Nat := do
  let x ← param >>= fun param => parseNumber? param.toList
  let rounded := (2 * x.units + Binary64.one) / (2 * Binary64.one)
  if x.negative || rounded = 0 then none else return min rounded countLimit

/-- The first step of a modifier that limits length: code is stripped unless the flag is `0`. -/
def stripFirst (flag : Option String) : List Step :=
  if (flag.map fun flag => Unicode.trim flag.toList) = some ['0'] then []
  else [.call plainTextName]

/-- Cuts a text after a number of units. -/
def limitUnits (next : Text.TakeUnit) : Modifier where
  steps? params := do
    let count ← positiveCount? params[0]?
    return stripFirst params[1]? ++
      [.apply (.total (Value.onText (Text.truncateAfter next count)))]

def maxWords : Modifier :=
  limitUnits Text.takeWord

def maxSentences : Modifier :=
  limitUnits Text.takeSentence

def defaultMaxChars : Nat := 1000

def maxChars : Modifier where
  steps? params :=
    let count := (positiveCount? params[0]?).getD defaultMaxChars
    some (stripFirst params[1]? ++ [.apply (.total (Value.onText (List.take count)))])

def defaultMaxLines : Nat := 2

/-- The largest number of line breaks that can be asked for. -/
def maxLinesLimit : Nat := 100

def noLines : Modifier :=
  direct fun params =>
    let limit := min ((positiveCount? params[0]?).getD defaultMaxLines) maxLinesLimit
    some (Value.onText (Text.limitBreaks limit))

end Stencil.Modifier
