namespace Stencil

/-! Hexadecimal digits, and the form of the functions that read from the front of a text. -/

/-- A reader takes a value off the front of a text, or refuses the text. -/
abbrev Reader (α : Type) := List Char → Option (α × List Char)

namespace Text

def hexDigit (n : Nat) : Char :=
  if n < 10 then Char.ofNat (n + 0x30) else Char.ofNat (n + 0x57)

def capitalHexDigit (n : Nat) : Char :=
  if n < 10 then Char.ofNat (n + 0x30) else Char.ofNat (n + 0x37)

/-- The value of a hexadecimal digit in either case. -/
def hexDigitValue? (c : Char) : Option Nat :=
  if c.isDigit then some (c.toNat - '0'.toNat)
  else if 'a' ≤ c ∧ c ≤ 'f' then some (c.toNat - 'a'.toNat + 10)
  else if 'A' ≤ c ∧ c ≤ 'F' then some (c.toNat - 'A'.toNat + 10)
  else none

def readHexDigits (count : Nat) : Reader Nat :=
  readFrom 0 count
where
  readFrom (value : Nat) : Nat → Reader Nat
    | 0, text => some (value, text)
    | _ + 1, [] => none
    | count + 1, c :: rest => do
        let digit ← hexDigitValue? c
        readFrom (16 * value + digit) count rest

/-- Reads a number of digits below a base of at most 16 that make up the whole text. -/
def numeral? (base : Nat) (digits : List Char) : Option Nat :=
  if digits.isEmpty then none
  else digits.foldlM (fun value c => do
    let digit ← hexDigitValue? c
    if digit < base then some (base * value + digit) else none) 0

end Text

end Stencil
