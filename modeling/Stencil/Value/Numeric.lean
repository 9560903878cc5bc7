import Stencil.Value.Basic
import Stencil.Binary64.Decimal
import Stencil.Unicode.WhiteSpace

namespace Stencil

/-! The numeric side of values: which values count as numbers, and which value a computed number
becomes. -/

/-- Reads a numeral with white space around it, unless its value is not finite. -/
def parseNumber? (text : List Char) : Option Binary64 :=
  Binary64.readFinite? (Unicode.trim text)

namespace Value

/-- The value as a number: a number, or a string that holds a numeral. -/
def number? : Value → Option Binary64
  | .number n => n.toBinary64?
  | .string s => parseNumber? s.toList
  | _ => none

/-- The bound below which an integral result is given as an integer. -/
def integralBound : Nat := 9000000000000000

/-- A computed number as a value: an integer if it is integral and below the bound in magnitude. -/
def ofBinary64 (x : Binary64) : Value :=
  if x.isIntegral ∧ x.units < integralBound * Binary64.one then integer x.floor
  else .number (.double x)

/-- A computed number as a value, if it is finite. -/
def ofReading? : Binary64.Reading → Option Value
  | .finite x => some (ofBinary64 x)
  | .infinite _ | .notANumber => none

/-- Tests for null, false, zero and the empty text, array and object. -/
def isEmpty : Value → Bool
  | .null => true
  | .boolean b => !b
  | .number (.integer n) => n == 0
  | .number (.double x) => x.isZero
  | .string s => s.toList.isEmpty
  | .array items => items.isEmpty
  | .object fields => fields.isEmpty

end Value

end Stencil
