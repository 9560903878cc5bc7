import Stencil.Binary64.Basic

namespace Stencil

/-! The shortest decimal that reads back as a given number.

The decimals that round to a number fill an interval around it, which contains its ends exactly if
the number's significand is even.  The decimal grids of one digit, two digits and so on are tried in
turn; on a grid only the two neighbours of the number need to be tested.  Seventeen digits always
suffice.
-/

namespace Binary64

/-- A decimal: its significant digits as one number and the power of ten of its last digit. -/
structure Decimal where
  digits : Nat
  exponent : Int

/-- The interval of counts of a quarter unit that round to a magnitude, and whether its ends
belong to it. -/
structure RoundingInterval where
  lower : Nat
  upper : Nat
  closed : Bool

/-- Below a power of two the neighbouring magnitudes lie half as far apart. -/
def roundingInterval (units : Nat) : RoundingInterval :=
  let step := spacing units
  { lower := 4 * units - (if units = 1 <<< units.log2 ∧ 1 < step then step else 2 * step)
    upper := 4 * units + 2 * step
    closed := units / step % 2 = 0 }

/-- Tests whether `digits · 10 ^ exponent` lies in the interval.  Both sides of each comparison are
multiplied by the denominator that the power of ten may have. -/
def RoundingInterval.holds (interval : RoundingInterval) (decimal : Decimal) : Bool :=
  let scale := if decimal.exponent < 0 then tenTo decimal.exponent.natAbs else 1
  let value := decimal.digits * (4 * one) *
    (if decimal.exponent < 0 then 1 else tenTo decimal.exponent.natAbs)
  if interval.closed then
    interval.lower * scale ≤ value && value ≤ interval.upper * scale
  else
    interval.lower * scale < value && value < interval.upper * scale

/-- The magnitude divided by `10 ^ exponent`, as a quotient. -/
def scaledQuotient (units : Nat) (exponent : Int) : Nat × Nat :=
  if exponent < 0 then (units * tenTo exponent.natAbs, one)
  else (units, one * tenTo exponent.natAbs)

/-- The power of ten of the first significant digit.  The logarithm to base two gives it up to one
place. -/
def leadingExponent (units : Nat) : Int :=
  let estimate : Int := ((units.log2 : Int) - 1074) * 30103 / 100000
  let (numerator, denominator) := scaledQuotient units (estimate + 1)
  if denominator ≤ numerator then estimate + 1 else estimate

/-- The better neighbour on the grid of decimals with the given last place, if one is in the
interval: the nearer one, and of two equally near ones the even one. -/
def onGrid? (units : Nat) (exponent : Int) : Option Decimal :=
  let interval := roundingInterval units
  let (numerator, denominator) := scaledQuotient units exponent
  let below : Decimal := ⟨numerator / denominator, exponent⟩
  let above : Decimal := ⟨numerator / denominator + 1, exponent⟩
  let nearer : Decimal := ⟨roundHalfEven numerator denominator, exponent⟩
  if interval.holds nearer then some nearer
  else if interval.holds below then some below
  else if interval.holds above then some above
  else none

/-- Tries the grids from the given number of digits on. -/
def searchGrids (units : Nat) (leading : Int) : Nat → Nat → Decimal
  | 0, count => ⟨(scaledQuotient units (leading - count)).1
      / (scaledQuotient units (leading - count)).2, leading - count⟩
  | fuel + 1, count =>
      match onGrid? units (leading - count) with
      | some decimal => decimal
      | none => searchGrids units leading fuel (count + 1)

/-- The shortest decimal that rounds to a magnitude other than zero. -/
def shortest (units : Nat) : Decimal :=
  searchGrids units (leadingExponent units) 17 0

/-- Zeros at the end of the digits say nothing. -/
def significantDigits (decimal : Decimal) : List Char :=
  let digits := Nat.toDigits 10 decimal.digits
  match (digits.reverse.dropWhile (· = '0')).reverse with
  | [] => ['0']
  | kept => kept

/-- Writes the digits of a decimal whose first digit has the given power of ten: with a point and
at least one place behind it from `10 ^ -5` up to `10 ^ 16`, otherwise with an exponent that always
bears its sign. -/
def layout (digits : List Char) (leading : Int) : List Char :=
  if -5 ≤ leading ∧ leading < 0 then
    "0.".toList ++ List.replicate (leading.natAbs - 1) '0' ++ digits
  else if 0 ≤ leading ∧ leading < 16 then
    let places := leading.natAbs + 1
    let whole := digits.take places ++ List.replicate (places - digits.length) '0'
    let fraction := digits.drop places
    whole ++ '.' :: (if fraction.isEmpty then ['0'] else fraction)
  else
    let sign := if leading < 0 then '-' else '+'
    let significand :=
      match digits with
      | first :: second :: rest => first :: '.' :: second :: rest
      | short => short
    significand ++ 'e' :: sign :: Nat.toDigits 10 leading.natAbs

def text (x : Binary64) : List Char :=
  let body :=
    if x.isZero then "0.0".toList
    else
      let decimal := shortest x.units
      let places := (Nat.toDigits 10 decimal.digits).length
      layout (significantDigits decimal) (decimal.exponent + places - 1)
  if x.negative then '-' :: body else body

end Binary64

end Stencil
