import Stencil.Value.Basic
import Stencil.Binary64.Decimal
import Stencil.Text.HexDigit

namespace Stencil.Json

/-! Reading a JSON document.

The reader takes the whole text: anything but white space after the value refuses it.  A name that
occurs again in an object keeps its place and takes the last value.  Arrays and objects nest at
most 127 deep.
-/

def isSpace (c : Char) : Bool :=
  c = ' ' || c = '\n' || c = '\t' || c = '\r'

def skipSpace (text : List Char) : List Char :=
  text.dropWhile isSpace

/-- The rest of the text after an expected word. -/
def afterWord? : List Char → List Char → Option (List Char)
  | [], text => some text
  | expected :: word, c :: rest => if c = expected then afterWord? word rest else none
  | _ :: _, [] => none

/-- The character after a backslash and a `u`.  A high surrogate needs a low one after it, and a
low one cannot stand alone. -/
def readUnicodeEscape : Reader Char := fun text => do
  let (unit, rest) ← Text.readHexDigits 4 text
  if 0xDC00 ≤ unit ∧ unit ≤ 0xDFFF then none
  else if 0xD800 ≤ unit ∧ unit ≤ 0xDBFF then
    match rest with
    | '\\' :: 'u' :: afterMark => do
        let (low, rest) ← Text.readHexDigits 4 afterMark
        if 0xDC00 ≤ low ∧ low ≤ 0xDFFF then
          return (Char.ofNat (0x10000 + (unit - 0xD800) * 0x400 + (low - 0xDC00)), rest)
        else none
    | _ => none
  else return (Char.ofNat unit, rest)

/-- The character that a one-letter escape stands for. -/
def escapeChar? : Char → Option Char
  | '"' => some '"'
  | '\\' => some '\\'
  | '/' => some '/'
  | 'b' => some '\x08'
  | 'f' => some '\x0c'
  | 'n' => some '\n'
  | 'r' => some '\r'
  | 't' => some '\t'
  | _ => none

/-- Reads up to the closing quote.  Each step takes at least one character, so the length of the
text is enough fuel. -/
def readQuoted : Nat → Reader (List Char)
  | 0, _ => none
  | fuel + 1, text =>
      match text with
      | [] => none
      | '"' :: rest => some ([], rest)
      | '\\' :: 'u' :: rest => do
          let (c, rest) ← readUnicodeEscape rest
          let (more, rest) ← readQuoted fuel rest
          return (c :: more, rest)
      | '\\' :: mark :: rest => do
          let c ← escapeChar? mark
          let (more, rest) ← readQuoted fuel rest
          return (c :: more, rest)
      | c :: rest =>
          if c = '\\' || c.toNat < 0x20 then none
          else do
            let (more, rest) ← readQuoted fuel rest
            return (c :: more, rest)

def readString : Reader String := fun text => do
  let (content, rest) ← readQuoted (text.length + 1) text
  return (String.ofList content, rest)

/-- Takes digits in behind a number while it fits into a word, and gives those that are left. -/
def takeDigits : Nat → List Char → Nat × List Char
  | value, [] => (value, [])
  | value, c :: rest =>
      let longer := 10 * value + (c.toNat - '0'.toNat)
      if longer < UInt64.size then takeDigits longer rest else (value, c :: rest)

/-- The largest exponent of a power of ten that is a number. -/
def largestPower : Nat := 308

/-- The number nearest to a power of ten. -/
def powerOfTen? (exponent : Nat) : Option Binary64 :=
  Binary64.ofDecimal? false 1 exponent

/-- Divides by the largest power of ten so many times. -/
def divideByLargest? (x : Binary64) : Nat → Option Binary64
  | 0 => some x
  | count + 1 =>
      if x.isZero then some x
      else do divideByLargest? (← x.div? (← powerOfTen? largestPower)) count

/-- Multiplies by a power of ten, or divides by as many as it takes, each step with its own
rounding. -/
def scale? (x : Binary64) (exponent : Int) : Option Binary64 := do
  let size := exponent.natAbs
  if exponent < 0 then
    let count := (size - 1) / largestPower
    let x ← divideByLargest? x count
    x.div? (← powerOfTen? (size - largestPower * count))
  else if x.isZero then return x
  else if largestPower < size then none
  else x.mul? (← powerOfTen? size)

/-- The number that a literal denotes.  Without a point and an exponent it is an integer if it lies
between the least signed and the greatest unsigned 64-bit integer; minus zero is a double.  Of the
digits of a double only those count that fit into a word; it is rounded first as an integer and then
again where a power of ten scales it, so it need not be the number nearest to the literal. -/
def literalNumber? (negative : Bool) (whole : List Char) (fraction : List Char)
    (exponent : Option Int) : Option Number :=
  let (start, wholeLeft) := takeDigits 0 whole
  let (significand, fractionLeft) := takeDigits start fraction
  let behindPoint : Int := fraction.length - fractionLeft.length
  let double : Option Number := do
    let rounded ← Binary64.ofDecimal? negative significand 0
    return .double (← scale? rounded (wholeLeft.length - behindPoint + exponent.getD 0))
  if fraction.isEmpty && exponent.isNone && wholeLeft.isEmpty then
    if !negative then some (.integer significand)
    else if significand = 0 ∨ 1 <<< 63 < significand then double
    else some (.integer (-(significand : Int)))
  else double

def readFraction : Reader (List Char)
  | '.' :: rest =>
      let digits := rest.takeWhile Char.isDigit
      if digits.isEmpty then none else some (digits, rest.dropWhile Char.isDigit)
  | text => some ([], text)

def readExponent : Reader (Option Int)
  | [] => some (none, [])
  | c :: rest =>
      if c = 'e' ∨ c = 'E' then
        let (negative, afterSign) := Binary64.readSign rest
        let digits := afterSign.takeWhile Char.isDigit
        if digits.isEmpty then none
        else
          let size : Int := Binary64.digitsValue digits
          some (some (if negative then -size else size), afterSign.dropWhile Char.isDigit)
      else some (none, c :: rest)

/-- Reads a number.  The whole part has no needless zero in front. -/
def readNumber : Reader Number := fun text => do
  let (negative, body) := match text with
    | '-' :: rest => (true, rest)
    | rest => (false, rest)
  let whole := body.takeWhile Char.isDigit
  if whole.isEmpty || (whole.head? = some '0' && 1 < whole.length) then none
  else
    let (fraction, rest) ← readFraction (body.dropWhile Char.isDigit)
    let (exponent, rest) ← readExponent rest
    let number ← literalNumber? negative whole fraction exponent
    return (number, rest)

mutual

/-- Reads a value after the white space in front of it.  `depth` arrays and objects may still be
opened. -/
def readValue : Nat → Nat → Reader Value
  | 0, _, _ => none
  | fuel + 1, depth, text =>
      match skipSpace text with
      | '"' :: rest => (readString rest).map fun (s, rest) => (.string s, rest)
      | '[' :: rest =>
          match depth with
          | 0 => none
          | depth + 1 =>
              match skipSpace rest with
              | ']' :: rest => some (.array [], rest)
              | rest => (readItems fuel depth rest).map fun (items, rest) => (.array items, rest)
      | '\x7b' :: rest =>
          match depth with
          | 0 => none
          | depth + 1 =>
              match skipSpace rest with
              | '\x7d' :: rest => some (.object [], rest)
              | rest =>
                  (readFields fuel depth [] rest).map fun (fields, rest) => (.object fields, rest)
      | 't' :: rest => (afterWord? "rue".toList rest).map fun rest => (.boolean true, rest)
      | 'f' :: rest => (afterWord? "alse".toList rest).map fun rest => (.boolean false, rest)
      | 'n' :: rest => (afterWord? "ull".toList rest).map fun rest => (.null, rest)
      | rest => (readNumber rest).map fun (number, rest) => (.number number, rest)

def readItems : Nat → Nat → Reader (List Value)
  | 0, _, _ => none
  | fuel + 1, depth, text => do
      let (item, rest) ← readValue fuel depth text
      match skipSpace rest with
      | ',' :: rest => do
          let (items, rest) ← readItems fuel depth rest
          return (item :: items, rest)
      | ']' :: rest => return ([item], rest)
      | _ => none

/-- Reads the fields of an object up to its end, after the fields that were read already. -/
def readFields : Nat → Nat → List (String × Value) → Reader (List (String × Value))
  | 0, _, _, _ => none
  | fuel + 1, depth, before, text =>
      match skipSpace text with
      | '"' :: rest => do
          let (name, rest) ← readString rest
          match skipSpace rest with
          | ':' :: rest => do
              let (value, rest) ← readValue fuel depth rest
              let fields := Value.putField name value before
              match skipSpace rest with
              | ',' :: rest => readFields fuel depth fields rest
              | '\x7d' :: rest => return (fields, rest)
              | _ => none
          | _ => none
      | _ => none

end

/-- The deepest nesting of arrays and objects. -/
def nestingLimit : Nat := 127

def parse? (text : List Char) : Option Value := do
  let (value, rest) ← readValue (2 * text.length + 2) nestingLimit text
  if (skipSpace rest).isEmpty then return value else none

end Stencil.Json
