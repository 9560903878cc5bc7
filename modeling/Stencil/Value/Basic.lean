import Stencil.Binary64.Basic

namespace Stencil

/-! Values: what a keyword can stand for.

A value is one of the six kinds of a data document.  Integers and binary64 numbers are kept apart:
`1` and `1.0` are different values with different texts.  The fields of an object keep the order in
which their names were first written.
-/

/-- A number as a document writes it: an integer, or a number with a fraction or an exponent. -/
inductive Number where
  | integer (n : Int)
  | double (x : Binary64)
deriving DecidableEq

namespace Number

def toBinary64? : Number → Option Binary64
  | .integer n => Binary64.ofInt? n
  | .double x => some x

/-- Equality of values: a double never equals an integer, and zero has no sign. -/
def same : Number → Number → Bool
  | .integer m, .integer n => m == n
  | .double x, .double y => x.signedUnits == y.signedUnits
  | _, _ => false

end Number

inductive Value where
  | null
  | boolean (b : Bool)
  | number (n : Number)
  | string (s : String)
  | array (items : List Value)
  | object (fields : List (String × Value))
deriving Inhabited

namespace Value

inductive Kind where
  | null
  | boolean
  | number
  | string
  | array
  | object
deriving DecidableEq

def kind : Value → Kind
  | .null => .null
  | .boolean _ => .boolean
  | .number _ => .number
  | .string _ => .string
  | .array _ => .array
  | .object _ => .object

def Kind.name : Kind → String
  | .null => "null"
  | .boolean => "boolean"
  | .number => "number"
  | .string => "string"
  | .array => "array"
  | .object => "object"

def integer (n : Int) : Value :=
  .number (.integer n)

def field? (name : String) (fields : List (String × Value)) : Option Value :=
  (fields.find? (·.1 == name)).map (·.2)

/-- Writes a field: one that is there keeps its place and takes the new value, a new one goes to
the end. -/
def putField (name : String) (value : Value) : List (String × Value) → List (String × Value)
  | [] => [(name, value)]
  | (other, old) :: rest =>
      if other = name then (name, value) :: rest else (other, old) :: putField name value rest

mutual

def same : Value → Value → Bool
  | .null, .null => true
  | .boolean a, .boolean b => a == b
  | .number m, .number n => m.same n
  | .string s, .string t => s == t
  | .array xs, .array ys => sameItems xs ys
  | .object fs, .object gs => fs.length == gs.length && sameFields fs gs
  | _, _ => false

def sameItems : List Value → List Value → Bool
  | [], [] => true
  | x :: xs, y :: ys => same x y && sameItems xs ys
  | _, _ => false

/-- Tests whether every field on the left has an equal field on the right. -/
def sameFields : List (String × Value) → List (String × Value) → Bool
  | [], _ => true
  | (name, value) :: rest, others =>
      (match field? name others with
        | some other => same value other
        | none => false) && sameFields rest others

end

end Value

end Stencil
