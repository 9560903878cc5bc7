import Stencil.Value.Basic
import Stencil.Binary64.Decimal
import Stencil.Text.HexDigit

namespace Stencil.Yaml

/-! The nodes of a YAML document, and the values that they stand for.

A plain scalar may stand for null, a boolean or a number, a quoted one stands for its text.  Where
the reader of a document wants a text, as for the keys of a mapping, every scalar gives its own.
-/

inductive Node where
  | scalar (plain : Bool) (text : String)
  | sequence (items : List Node)
  | mapping (entries : List (Node × Node))
deriving Inhabited

/-- Tests for decimal digits with a needless zero in front, which make a text. -/
def hasLeadingZero (digits : List Char) : Bool :=
  digits.head? = some '0' && 1 < digits.length && digits.all Char.isDigit

/-- Reads an integer: a sign and digits, which are decimal unless a marker says otherwise. -/
def integer? (text : List Char) : Option Int :=
  let (negative, body) := Binary64.readSign text
  let size := match body with
    | '0' :: 'x' :: digits => Text.numeral? 16 digits
    | '0' :: 'o' :: digits => Text.numeral? 8 digits
    | '0' :: 'b' :: digits => Text.numeral? 2 digits
    | digits => if hasLeadingZero digits then none else Text.numeral? 10 digits
  size.map fun size => if negative then -(size : Int) else size

/-- Tests for the words for values that are no finite numbers. -/
def isNonFiniteWord (text : String) : Bool :=
  ["nan", "NaN", "NAN"].any (fun word => text == "." ++ word) ||
    ["inf", "Inf", "INF"].any fun word =>
      ["", "+", "-"].any fun sign => text == sign ++ "." ++ word

/-- The value of a plain scalar without regard to integers: a number, or else its text. -/
def fractionOrText (text : String) : Value :=
  if isNonFiniteWord text then .null
  else
    let (_, body) := Binary64.readSign text.toList
    match Binary64.readFinite? text.toList with
    | some x => if hasLeadingZero body then .string text else .number (.double x)
    | none => .string text

/-- The value of a plain scalar.  An integer of 64 bits is a number, a longer one of at most 128
bits is refused. -/
def plainValue? (text : String) : Option Value :=
  if ["", "~", "null", "Null", "NULL"].contains text then some .null
  else if ["true", "True", "TRUE"].contains text then some (.boolean true)
  else if ["false", "False", "FALSE"].contains text then some (.boolean false)
  else
    match integer? text.toList with
    | some n =>
        if Int64.minValue.toInt ≤ n ∧ n < UInt64.size then some (.integer n)
        else if -(1 <<< 127 : Nat) ≤ n ∧ n < (1 <<< 128 : Nat) then none
        else some (fractionOrText text)
    | none => some (fractionOrText text)

namespace Node

/-- A node that is not written at all. -/
def empty : Node := .scalar true ""

def text? : Node → Option String
  | .scalar _ text => some text
  | _ => none

/-- The boolean that a plain scalar stands for. -/
def boolean? : Node → Option Bool
  | .scalar true text =>
      match plainValue? text with
      | some (.boolean b) => some b
      | _ => none
  | _ => none

/-- The entries of a mapping under the texts of their keys.  A node that is not written has
none. -/
def fields? : Node → Option (List (String × Node))
  | .mapping entries => entries.mapM fun (key, node) => key.text?.map fun key => (key, node)
  | .scalar true "" => some []
  | _ => none

mutual

/-- The value that a node stands for. -/
def toValue? : Node → Option Value
  | .scalar plain text => if plain then plainValue? text else some (.string text)
  | .sequence items => (valuesOf? items).map .array
  | .mapping entries => (fieldsOf? [] entries).map .object

def valuesOf? : List Node → Option (List Value)
  | [] => some []
  | item :: rest => do
      let value ← toValue? item
      let values ← valuesOf? rest
      return value :: values

def fieldsOf? (before : List (String × Value)) :
    List (Node × Node) → Option (List (String × Value))
  | [] => some before
  | (key, node) :: rest => do
      let name ← key.text?
      let value ← toValue? node
      fieldsOf? (Value.putField name value before) rest

end

end Node

end Stencil.Yaml
