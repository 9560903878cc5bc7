import Stencil.Text.FormEncoding
import Stencil.Proofs.Modifier.Steadiness
import Stencil.Proofs.Text.Utf8

namespace Stencil

/-! The form encoding of URLs can be read back.

Every byte is written so that the reader takes exactly its writing off the front of a text: as a
plus, as itself, or as a percent sign with two digits.
-/

namespace Text

/-- The characters that a form encoding uses as they are. -/
def isFormChar (c : Char) : Bool :=
  c.isAlphanum || c = '*' || c = '-' || c = '.' || c = '_' || c = '+'

/-- The hexadecimal digits with capital letters. -/
def isCapitalHexDigit (c : Char) : Bool :=
  c.isDigit || ('A' ≤ c && c ≤ 'F')

/-- A text of plain characters and of percent signs with two capital hexadecimal digits each. -/
inductive FormEncoded : List Char → Prop where
  | nil : FormEncoded []
  | plain {c : Char} {rest : List Char} :
      isFormChar c = true → FormEncoded rest → FormEncoded (c :: rest)
  | escape {high low : Char} {rest : List Char} :
      isCapitalHexDigit high = true → isCapitalHexDigit low = true → FormEncoded rest →
        FormEncoded ('%' :: high :: low :: rest)

theorem FormEncoded.append {left right : List Char} (first : FormEncoded left)
    (second : FormEncoded right) : FormEncoded (left ++ right) := by
  induction first with
  | nil => exact second
  | plain isPlain _ restIH => exact .plain isPlain restIH
  | escape isHigh isLow _ restIH => exact .escape isHigh isLow restIH

theorem capitalHexDigit_of_lt {n : Nat} (small : n < 16) :
    isCapitalHexDigit (capitalHexDigit n) = true ∧ hexDigitValue? (capitalHexDigit n) = some n := by
  have all : ∀ n < 16, isCapitalHexDigit (capitalHexDigit n) = true ∧
      hexDigitValue? (capitalHexDigit n) = some n := by
    decide
  exact all n small

theorem encodeChar_of_ascii {c : Char} (ascii : c.toNat < 0x80) :
    encodeChar c = [UInt8.ofNat c.toNat] := by
  rw [encodeChar, if_pos ascii]

/-- A byte that stands for itself is the only byte of its character, and none that has another
meaning in an encoded text. -/
theorem formPlain_char {byte : UInt8} (isPlain : isFormPlain byte = true) :
    encodeChar (Char.ofNat byte.toNat) = [byte] ∧ isFormChar (Char.ofNat byte.toNat) = true ∧
      Char.ofNat byte.toNat ≠ '+' ∧ Char.ofNat byte.toNat ≠ '%' := by
  have all : ∀ n < 0x100, isFormPlain (UInt8.ofNat n) = true →
      (Char.ofNat n).toNat = n ∧ n < 0x80 ∧ isFormChar (Char.ofNat n) = true ∧
        Char.ofNat n ≠ '+' ∧ Char.ofNat n ≠ '%' := by
    decide +kernel
  obtain ⟨same, ascii, others⟩ := all byte.toNat byte.toNat_lt (by rwa [UInt8.ofNat_toNat])
  refine ⟨?_, others⟩
  rw [encodeChar_of_ascii (by rwa [same]), same, UInt8.ofNat_toNat]

theorem formEncoded_formEncodeByte (byte : UInt8) : FormEncoded (formEncodeByte byte) := by
  have small : byte.toNat < 0x100 := byte.toNat_lt
  rw [formEncodeByte]
  split
  · exact .plain (by decide) .nil
  split
  · next isPlain => exact .plain (formPlain_char isPlain).2.1 .nil
  · exact .escape (capitalHexDigit_of_lt (by omega)).1 (capitalHexDigit_of_lt (by omega)).1 .nil

theorem formEncoded_formEncode (text : List Char) : FormEncoded (formEncode text) := by
  rw [formEncode]
  induction encode text with
  | nil => exact .nil
  | cons byte rest restIH => exact (formEncoded_formEncodeByte byte).append restIH

theorem formDecodeBytes_plus (rest : List Char) :
    formDecodeBytes ('+' :: rest) = 0x20 :: formDecodeBytes rest := by
  rw [formDecodeBytes, if_pos rfl]

theorem formDecodeBytes_plain {c : Char} (notPlus : c ≠ '+') (notPercent : c ≠ '%')
    (rest : List Char) : formDecodeBytes (c :: rest) = encodeChar c ++ formDecodeBytes rest := by
  rw [formDecodeBytes, if_neg notPlus, if_neg notPercent]

theorem formDecodeBytes_escape {text rest : List Char} {byte : UInt8}
    (escaped : escapedByte? text = some (byte, rest)) :
    formDecodeBytes ('%' :: text) = byte :: formDecodeBytes rest := by
  rw [formDecodeBytes, if_neg (by decide), if_pos rfl]
  split
  · next found =>
      cases escaped.symm.trans found
      rfl
  · next unread => cases escaped.symm.trans unread

theorem escapedByte?_capitals (byte : UInt8) (rest : List Char) :
    escapedByte? (capitalHexDigit (byte.toNat / 16) :: capitalHexDigit (byte.toNat % 16) :: rest) =
      some (byte, rest) := by
  have small : byte.toNat < 0x100 := byte.toNat_lt
  have whole : 16 * (byte.toNat / 16) + byte.toNat % 16 = byte.toNat := Nat.div_add_mod _ _
  simp only [escapedByte?, (capitalHexDigit_of_lt (n := byte.toNat / 16) (by omega)).2,
    (capitalHexDigit_of_lt (n := byte.toNat % 16) (by omega)).2, whole, UInt8.ofNat_toNat]

/-- The reader takes the writing of a byte off the front of a text, whatever follows. -/
theorem formDecodeBytes_formEncodeByte_append (byte : UInt8) (rest : List Char) :
    formDecodeBytes (formEncodeByte byte ++ rest) = byte :: formDecodeBytes rest := by
  rw [formEncodeByte]
  split
  · next isSpace => rw [isSpace, List.singleton_append, formDecodeBytes_plus]
  split
  · next isPlain =>
      obtain ⟨ownByte, _, notPlus, notPercent⟩ := formPlain_char isPlain
      rw [List.singleton_append, formDecodeBytes_plain notPlus notPercent, ownByte,
        List.singleton_append]
  · exact formDecodeBytes_escape (escapedByte?_capitals byte rest)

theorem formDecodeBytes_flatMap (bytes : List UInt8) :
    formDecodeBytes (bytes.flatMap formEncodeByte) = bytes := by
  induction bytes with
  | nil => rw [List.flatMap_nil, formDecodeBytes]
  | cons byte rest restIH =>
      rw [List.flatMap_cons, formDecodeBytes_formEncodeByte_append, restIH]

theorem formDecode_formEncode (text : List Char) : formDecode (formEncode text) = text := by
  rw [formDecode, formEncode, formDecodeBytes_flatMap, decode_encode]

end Text

namespace Registry

open Text

/-- What the built-in form encoding makes of a text is in the form alphabet, and the built-in
decoding makes the text of it again. -/
theorem urldecode_urlencode [Regex.Limits] (params : List String) (s : String) :
    ∃ encoded : String,
      builtin.resolve ⟨"urlencode", params⟩ (.string s) = some (.string encoded) ∧
      FormEncoded encoded.toList ∧
      builtin.resolve ⟨"urldecode", params⟩ (.string encoded) = some (.string s) := by
  have encodes : builtin.find? "urlencode" = some (.text formEncode) := by
    rw [find?_builtin]
    rfl
  have decodes : builtin.find? "urldecode" = some (.text formDecode) := by
    rw [find?_builtin]
    rfl
  refine ⟨_, resolve_of_text encodes s, ?_, ?_⟩
  · rw [String.toList_ofList]
    exact formEncoded_formEncode s.toList
  · rw [resolve_of_text decodes, String.toList_ofList, formDecode_formEncode, String.ofList_toList]

end Registry

end Stencil
