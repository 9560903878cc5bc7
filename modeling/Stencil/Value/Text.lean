import Stencil.Value.Basic
import Stencil.Binary64.Shortest
import Stencil.Text.HexDigit

namespace Stencil

/-! The text of a value: what a keyword is replaced with.

A string stands for itself, null for nothing, and an array or an object for its compact document
text.
-/

/-- The decimal digits of an integer, after a minus if it is negative. -/
def integerText (n : Int) : List Char :=
  if n < 0 then '-' :: Nat.toDigits 10 n.natAbs else Nat.toDigits 10 n.natAbs

namespace Number

def text : Number → List Char
  | .integer n => integerText n
  | .double x => x.text

end Number

namespace Value

def booleanText (b : Bool) : List Char :=
  if b then "true".toList else "false".toList

/-- One character inside quotes.  A quote, a backslash and the control characters are escaped. -/
def quotedChar (c : Char) : List Char :=
  match c with
  | '"' => ['\\', '"']
  | '\\' => ['\\', '\\']
  | '\x08' => ['\\', 'b']
  | '\x0c' => ['\\', 'f']
  | '\n' => ['\\', 'n']
  | '\r' => ['\\', 'r']
  | '\t' => ['\\', 't']
  | _ =>
      if c.toNat < 0x20 then
        ['\\', 'u', '0', '0', Text.hexDigit (c.toNat / 16), Text.hexDigit (c.toNat % 16)]
      else [c]

def quoted (text : List Char) : List Char :=
  '"' :: text.flatMap quotedChar ++ ['"']

mutual

/-- The compact document text of a value. -/
def document : Value → List Char
  | .null => "null".toList
  | .boolean b => booleanText b
  | .number n => n.text
  | .string s => quoted s.toList
  | .array items => '[' :: itemsDocument items ++ [']']
  | .object fields => '\x7b' :: fieldsDocument fields ++ ['\x7d']

def itemsDocument : List Value → List Char
  | [] => []
  | [item] => document item
  | item :: next :: rest => document item ++ ',' :: itemsDocument (next :: rest)

def fieldsDocument : List (String × Value) → List Char
  | [] => []
  | [(name, value)] => quoted name.toList ++ ':' :: document value
  | (name, value) :: next :: rest =>
      quoted name.toList ++ ':' :: document value ++ ',' :: fieldsDocument (next :: rest)

end

/-- The text that a value is replaced with. -/
def text : Value → List Char
  | .null => []
  | .string s => s.toList
  | value => value.document

/-- The text of a string, a number or a boolean; null, arrays and objects have none. -/
def scalarText? : Value → Option (List Char)
  | .string s => some s.toList
  | .number n => some n.text
  | .boolean b => some (booleanText b)
  | _ => none

end Value

end Stencil
