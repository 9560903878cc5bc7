import Stencil.Text.HexDigit
import Stencil.Text.Utf8

namespace Stencil.Text

/-! The form encoding of URLs.

A space is written as a plus and every byte but those of letters, digits and `*-._` as a percent
sign with two capital hexadecimal digits.  Decoding leaves a percent sign alone that no two
hexadecimal digits follow.
-/

/-- The bytes that stand for themselves. -/
def isFormPlain (byte : UInt8) : Bool :=
  let c := Char.ofNat byte.toNat
  c.isAlphanum || c = '*' || c = '-' || c = '.' || c = '_'

def formEncodeByte (byte : UInt8) : List Char :=
  if byte = 0x20 then ['+']
  else if isFormPlain byte then [Char.ofNat byte.toNat]
  else ['%', capitalHexDigit (byte.toNat / 16), capitalHexDigit (byte.toNat % 16)]

def formEncode (text : List Char) : List Char :=
  (encode text).flatMap formEncodeByte

/-- The byte that a percent sign with two hexadecimal digits after it stands for. -/
def escapedByte? : List Char → Option (UInt8 × List Char)
  | high :: low :: rest =>
      match hexDigitValue? high, hexDigitValue? low with
      | some high, some low => some (UInt8.ofNat (16 * high + low), rest)
      | _, _ => none
  | _ => none

theorem escapedByte?_length {text rest : List Char} {byte : UInt8}
    (found : escapedByte? text = some (byte, rest)) : rest.length < text.length := by
  unfold escapedByte? at found
  split at found
  · split at found
    · simp only [Option.some.injEq, Prod.mk.injEq] at found
      simp only [← found.2, List.length_cons]
      omega
    · contradiction
  · contradiction

def formDecodeBytes : List Char → List UInt8
  | [] => []
  | c :: rest =>
      if c = '+' then 0x20 :: formDecodeBytes rest
      else if c = '%' then
        match _found : escapedByte? rest with
        | some (byte, after) => byte :: formDecodeBytes after
        | none => 0x25 :: formDecodeBytes rest
      else encodeChar c ++ formDecodeBytes rest
termination_by text => text.length
decreasing_by
  all_goals simp only [List.length_cons]
  all_goals first
    | omega
    | exact Nat.lt_succ_of_lt (escapedByte?_length (by assumption))

def formDecode (text : List Char) : List Char :=
  decode (formDecodeBytes text)

end Stencil.Text
