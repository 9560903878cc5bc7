import Stencil.Modifier.Branch
import Stencil.Regex.Replace

namespace Stencil.Modifier

/-! Modifiers that look for regular expressions in the text of a scalar value.

Parameters that are no regular expression are rejected, and so are the empty one and those that the
engine refuses.
-/

variable [Regex.Limits]

/-- Reads the expression of a parameter.  In tests a dot matches line feeds too. -/
def expression? (dotMatchesLineFeed : Bool) (param : Option String) : Option Regex := do
  let source ← param
  if source.toList.isEmpty then none
  else Regex.build? { dotMatchesLineFeed } source.toList

/-- Tests for a match, or for none. -/
def patternTest (wanted : Bool) : Modifier :=
  direct fun params => do
    let regex ← expression? true params[0]?
    let holds ← params[1]?
    return branch holds params[2]? fun value =>
      value.scalarText?.map fun text => regex.isMatch text == wanted

/-- Replaces all matches, by nothing if there is no replacement. -/
def patternReplace : Modifier :=
  direct fun params => do
    let regex ← expression? false params[0]?
    let replacement := (params[1]?.map String.toList).getD []
    return fun value =>
      match value.scalarText? with
      | some text => .string (String.ofList (regex.replaceAll replacement text))
      | none => value

end Stencil.Modifier
