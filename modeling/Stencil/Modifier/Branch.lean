import Stencil.Modifier.Registry
import Stencil.Value.Numeric
import Stencil.Value.Text

namespace Stencil.Modifier

/-! Modifiers that test a value.

A test that holds yields a fixed text and one that does not yields another one if it is given.
Where there is no such text, and where the test does not apply to the value at all, the value stays.
-/

/-- Chooses by a test, which is `none` for a value to which it does not apply. -/
def branch (holds : String) (fails : Option String) (test : Value → Option Bool) :
    Value → Value :=
  fun value =>
    match test value with
    | some true => .string holds
    | some false => (fails.map Value.string).getD value
    | none => value

/-- Tests for the empty values or for the others: parameters are the two texts. -/
def emptiness (wanted : Bool) : Modifier :=
  direct fun params => do
    let holds ← params[0]?
    return branch holds params[1]? fun value => some (value.isEmpty == wanted)

def isInfix (part : List Char) : List Char → Bool
  | [] => part.isEmpty
  | c :: rest => part.isPrefixOf (c :: rest) || isInfix part rest

/-- Compares the text of a value with an operand, which must not be empty. -/
def textTest (test : List Char → List Char → Bool) : Modifier :=
  direct fun params => do
    let operand ← params[0]?
    if operand.toList.isEmpty then none
    else
      let holds ← params[1]?
      return branch holds params[2]? fun value => some (test value.text operand.toList)

def matching : Modifier :=
  textTest fun text operand => text == operand

def notMatching : Modifier :=
  textTest fun text operand => text != operand

def containing : Modifier :=
  textTest fun text operand => isInfix operand text

def notContaining : Modifier :=
  textTest fun text operand => !isInfix operand text

def numberTest (test : Binary64 → Binary64 → Bool) : Modifier :=
  direct fun params => do
    let operand ← params[0]? >>= fun param => parseNumber? param.toList
    let holds ← params[1]?
    return branch holds params[2]? fun value => value.number?.map fun x => test x operand

def greater : Modifier :=
  numberTest fun x operand => operand < x

def greaterOrEqual : Modifier :=
  numberTest fun x operand => operand ≤ x

def less : Modifier :=
  numberTest fun x operand => x < operand

def lessOrEqual : Modifier :=
  numberTest fun x operand => x ≤ operand

end Stencil.Modifier
