import Stencil.Text.Utf8

namespace Stencil.Text

/-! Reading the UTF-8 form of a text gives the text back.

The first byte of a character announces what follows, and the bytes that follow pass the bounds that
it sets: the longer forms begin where the shorter ones end, and no character is a surrogate.
-/

theorem decodeFollowing_ofNat {bits count least greatest byte : Nat} {rest : List UInt8}
    (low : least ≤ byte) (high : byte ≤ greatest) (small : byte < 0x100) :
    decodeFollowing bits (count + 1) least greatest (UInt8.ofNat byte :: rest) =
      decodeFollowing (bits * 0x40 + (byte - 0x80)) count 0x80 0xBF rest := by
  rw [decodeFollowing, UInt8.toNat_ofNat_of_lt' small, if_pos ⟨low, high⟩]

theorem decodeFirst_ofNat {byte following least greatest bits : Nat} {rest : List UInt8}
    (small : byte < 0x100) (announced : lead? byte = some ⟨following, least, greatest, bits⟩) :
    decodeFirst (UInt8.ofNat byte) rest = decodeFollowing bits following least greatest rest := by
  rw [decodeFirst, UInt8.toNat_ofNat_of_lt' small, announced]

section Lead

variable {byte : Nat}

theorem lead?_one (high : byte < 0x80) : lead? byte = some ⟨0, 0x80, 0xBF, byte⟩ := by
  rw [lead?, if_pos high]

theorem lead?_two (low : 0xC2 ≤ byte) (high : byte < 0xE0) :
    lead? byte = some ⟨1, 0x80, 0xBF, byte - 0xC0⟩ := by
  rw [lead?, if_neg (by omega), if_neg (by omega), if_pos high]

theorem lead?_three (low : 0xE0 ≤ byte) (high : byte < 0xF0) :
    lead? byte = some ⟨2, if byte = 0xE0 then 0xA0 else 0x80,
      if byte = 0xED then 0x9F else 0xBF, byte - 0xE0⟩ := by
  rw [lead?, if_neg (by omega), if_neg (by omega), if_neg (by omega), if_pos high]

theorem lead?_four (low : 0xF0 ≤ byte) (high : byte < 0xF5) :
    lead? byte = some ⟨3, if byte = 0xF0 then 0x90 else 0x80,
      if byte = 0xF4 then 0x8F else 0xBF, byte - 0xF0⟩ := by
  rw [lead?, if_neg (by omega), if_neg (by omega), if_neg (by omega), if_neg (by omega),
    if_pos high]

end Lead

theorem decode_cons (byte : UInt8) (rest : List UInt8) :
    decode (byte :: rest) = (decodeFirst byte rest).1 :: decode (decodeFirst byte rest).2 := by
  rw [decode]

/-- Code points are below the end of Unicode and no surrogates. -/
theorem toNat_bounds (c : Char) :
    c.toNat < 0xD800 ∨ (0xDFFF < c.toNat ∧ c.toNat < 0x110000) :=
  c.valid

theorem decodeFirst_encodeChar (c : Char) (rest : List UInt8) :
    ∃ byte following, encodeChar c = byte :: following ∧
      decodeFirst byte (following ++ rest) = (c, rest) := by
  have bounds := toNat_bounds c
  have ofCode {bits : Nat} (same : bits = c.toNat) :
      decodeFollowing bits 0 0x80 0xBF rest = (c, rest) := by
    rw [decodeFollowing, same, Char.ofNat_toNat]
  rw [encodeChar]
  split
  · next one =>
      refine ⟨_, _, rfl, ?_⟩
      rw [List.nil_append, decodeFirst_ofNat (by omega) (lead?_one one)]
      exact ofCode rfl
  split
  · next two =>
      refine ⟨_, _, rfl, ?_⟩
      rw [decodeFirst_ofNat (by omega) (lead?_two (by omega) (by omega)), List.cons_append,
        List.nil_append, decodeFollowing_ofNat (by omega) (by omega) (by omega)]
      exact ofCode (by omega)
  split
  · next three =>
      refine ⟨_, _, rfl, ?_⟩
      rw [decodeFirst_ofNat (by omega) (lead?_three (by omega) (by omega)), List.cons_append,
        List.cons_append, List.nil_append,
        decodeFollowing_ofNat (by split <;> omega) (by split <;> omega) (by omega),
        decodeFollowing_ofNat (by omega) (by omega) (by omega)]
      exact ofCode (by omega)
  · next four =>
      refine ⟨_, _, rfl, ?_⟩
      rw [decodeFirst_ofNat (by omega) (lead?_four (by omega) (by omega)), List.cons_append,
        List.cons_append, List.cons_append, List.nil_append,
        decodeFollowing_ofNat (by split <;> omega) (by split <;> omega) (by omega),
        decodeFollowing_ofNat (by omega) (by omega) (by omega),
        decodeFollowing_ofNat (by omega) (by omega) (by omega)]
      exact ofCode (by omega)

theorem decode_encodeChar_append (c : Char) (rest : List UInt8) :
    decode (encodeChar c ++ rest) = c :: decode rest := by
  obtain ⟨byte, following, form, first⟩ := decodeFirst_encodeChar c rest
  rw [form, List.cons_append, decode_cons, first]

theorem decode_encode (text : List Char) : decode (encode text) = text := by
  induction text with
  | nil => rw [encode, List.flatMap_nil, decode]
  | cons c rest restIH =>
      rw [encode, List.flatMap_cons, decode_encodeChar_append]
      exact congrArg (c :: ·) restIH

end Stencil.Text
