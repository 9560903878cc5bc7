import Stencil.Binary64.Basic

namespace Stencil

/-! Decimal literals: reading the number nearest to a decimal, and writing the shortest decimal
that reads back. -/

namespace Binary64

/-- The number nearest to `digits · 10 ^ exponent`, unless it is too large.

A decimal of more than 310 places before the point is too large and one whose first digit stands
more than 330 places behind it rounds to zero, so no larger power of ten is ever formed. -/
def ofDecimal? (negative : Bool) (digits : Nat) (exponent : Int) : Option Binary64 :=
  let places : Int := (Nat.toDigits 10 digits).length
  if digits = 0 then ofUnits? negative 0 1
  else if 310 < places + exponent then none
  else if places + exponent < -330 then ofUnits? negative 0 1
  else if exponent < 0 then ofUnits? negative (digits * one) (tenTo exponent.natAbs)
  else ofUnits? negative (digits * one * tenTo exponent.natAbs) 1

/-- The value of a run of decimal digits. -/
def digitsValue (digits : List Char) : Nat :=
  digits.foldl (fun value c => 10 * value + (c.toNat - '0'.toNat)) 0

/-- What a numeral can denote and a calculation can give. -/
inductive Reading where
  | finite (x : Binary64)
  | infinite (negative : Bool)
  | notANumber

/-- Reads an optional sign and gives `true` for a minus. -/
def readSign : List Char → Bool × List Char
  | '-' :: rest => (true, rest)
  | '+' :: rest => (false, rest)
  | text => (false, text)

/-- Reads an exponent part: nothing, or `e` with an optional sign and at least one digit. -/
def readExponent? : List Char → Option Int
  | [] => some 0
  | c :: rest =>
      if c = 'e' ∨ c = 'E' then
        let (negative, digits) := readSign rest
        if digits.isEmpty || digits.any (fun d => !d.isDigit) then none
        else if negative then some (-(digitsValue digits : Int)) else some (digitsValue digits)
      else none

/-- Reads a numeral: a sign, digits with an optional point among them and an optional exponent, or
one of the words for the values that are not finite, in any case. -/
def read? (text : List Char) : Option Reading :=
  let (negative, body) := readSign text
  let word := body.map Char.toLower
  if word = "inf".toList ∨ word = "infinity".toList then some (.infinite negative)
  else if word = "nan".toList then some .notANumber
  else
    let whole := body.takeWhile Char.isDigit
    let afterWhole := body.dropWhile Char.isDigit
    let (fraction, afterFraction) :=
      match afterWhole with
      | '.' :: rest => (rest.takeWhile Char.isDigit, rest.dropWhile Char.isDigit)
      | rest => ([], rest)
    if whole.isEmpty && fraction.isEmpty then none
    else (readExponent? afterFraction).map fun exponent =>
      match ofDecimal? negative (digitsValue (whole ++ fraction)) (exponent - fraction.length) with
      | some x => .finite x
      | none => .infinite negative

/-- The numeral's value if it is a finite number. -/
def readFinite? (text : List Char) : Option Binary64 :=
  match read? text with
  | some (.finite x) => some x
  | _ => none

end Binary64

end Stencil
