import Stencil.Calendar.Format
import Stencil.Modifier.Registry
import Stencil.Value.Numeric

namespace Stencil.Modifier

/-! Modifiers that calculate, and the one that writes a number of seconds since the start of 1970 as
a date.

A value that is no number stays as it is, and so does one whose result would be too large.
-/

def numeric (operation : Binary64 → Option Binary64) : Value → Value :=
  fun value =>
    match value.number?.bind operation with
    | some result => Value.ofBinary64 result
    | none => value

def binary (operation : Binary64 → Binary64 → Option Binary64) : Modifier :=
  direct fun params => do
    let operand ← params[0]? >>= fun param => parseNumber? param.toList
    return numeric fun x => operation x operand

def add : Modifier :=
  binary Binary64.add?

def subtract : Modifier :=
  binary Binary64.sub?

def multiply : Modifier :=
  binary Binary64.mul?

/-- Zero is no divisor. -/
def divide : Modifier :=
  direct fun params => do
    let divisor ← params[0]? >>= fun param => parseNumber? param.toList
    if divisor.isZero then none else return numeric fun x => x.div? divisor

/-- The step of a counting modifier: 1 if it is missing or blank. -/
def stepOf (params : List String) : Option Binary64 :=
  match params[0]?.map fun param => Unicode.trim param.toList with
  | none | some [] => Binary64.ofInt? 1
  | some step => parseNumber? step

def increment : Modifier :=
  direct fun params => (stepOf params).map fun step => numeric fun x => x.add? step

def decrement : Modifier :=
  direct fun params => (stepOf params).map fun step => numeric fun x => x.sub? step

/-- The largest number of decimal places to round to, on either side of the point. -/
def precisionLimit : Int := 15

def parseInt32? (text : List Char) : Option Int :=
  let (negative, digits) := Binary64.readSign text
  if digits.isEmpty || digits.any (fun c => !c.isDigit) then none
  else
    let value : Int :=
      if negative then -(Binary64.digitsValue digits : Int) else Binary64.digitsValue digits
    if Int32.minValue.toInt ≤ value ∧ value ≤ Int32.maxValue.toInt then some value else none

/-- The number of places to round to, 0 if the parameter is missing or no integer. -/
def precisionOf (params : List String) : Int :=
  let wanted := (params[0]?.bind fun param => parseInt32? (Unicode.trim param.toList)).getD 0
  max (-precisionLimit) (min precisionLimit wanted)

/-- The power of ten by which a number is scaled before it is rounded. -/
def scaleFor (precision : Int) : Option Binary64 := do
  let power ← Binary64.ofInt? (Binary64.tenTo precision.natAbs)
  if precision < 0 then (← Binary64.ofInt? 1).div? power else return power

/-- Scales, rounds to an integer and scales back, each step with its own rounding. -/
def roundTo (scale x : Binary64) : Option Binary64 := do
  let scaled ← x.mul? scale
  let rounded ← scaled.round?
  rounded.div? scale

def round : Modifier :=
  direct fun params => (scaleFor (precisionOf params)).map fun scale => numeric (roundTo scale)

def ceil : Modifier :=
  direct fun _ => some (numeric Binary64.ceil?)

def floor : Modifier :=
  direct fun _ => some (numeric Binary64.floor?)

/-- Writes the moments that numeric values stand for.  Values that stand for none stay. -/
def writeDate (format : DateFormat) : Transform :=
  fun value =>
    match value.number?.bind fun x => Moment.ofSeconds? x.floor with
    | some moment => (format.write? moment).map fun text => .string (String.ofList text)
    | none => some value

/-- The parameter is the format, which must not be empty. -/
def dateFormat : Modifier :=
  ofTransform fun params => do
    let source ← params[0]?
    if source.toList.isEmpty then none
    else (DateFormat.parse? source.toList).map writeDate

end Stencil.Modifier
