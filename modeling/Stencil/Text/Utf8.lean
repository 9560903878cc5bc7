namespace Stencil.Text

/-! The UTF-8 form of a text, and reading bytes that may not be UTF-8.

`decode` never fails: the longest front part that could have begun a character, or else a single
byte, is replaced by one replacement character.
-/

def encodeChar (c : Char) : List UInt8 :=
  let code := c.toNat
  if code < 0x80 then [UInt8.ofNat code]
  else if code < 0x800 then
    [UInt8.ofNat (0xC0 + code / 0x40), UInt8.ofNat (0x80 + code % 0x40)]
  else if code < 0x10000 then
    [UInt8.ofNat (0xE0 + code / 0x1000), UInt8.ofNat (0x80 + code / 0x40 % 0x40),
      UInt8.ofNat (0x80 + code % 0x40)]
  else
    [UInt8.ofNat (0xF0 + code / 0x40000), UInt8.ofNat (0x80 + code / 0x1000 % 0x40),
      UInt8.ofNat (0x80 + code / 0x40 % 0x40), UInt8.ofNat (0x80 + code % 0x40)]

def encode (text : List Char) : List UInt8 :=
  text.flatMap encodeChar

def width : List Char → Nat
  | [] => 0
  | c :: rest => c.utf8Size + width rest

/-- What a first byte announces: how many bytes follow, the bounds of the one directly after it,
and its share of the code point. -/
structure Lead where
  following : Nat
  least : Nat
  greatest : Nat
  bits : Nat

def lead? (byte : Nat) : Option Lead :=
  if byte < 0x80 then some ⟨0, 0x80, 0xBF, byte⟩
  else if byte < 0xC2 then none
  else if byte < 0xE0 then some ⟨1, 0x80, 0xBF, byte - 0xC0⟩
  else if byte < 0xF0 then
    some ⟨2, if byte = 0xE0 then 0xA0 else 0x80, if byte = 0xED then 0x9F else 0xBF, byte - 0xE0⟩
  else if byte < 0xF5 then
    some ⟨3, if byte = 0xF0 then 0x90 else 0x80, if byte = 0xF4 then 0x8F else 0xBF, byte - 0xF0⟩
  else none

def replacement : Char := '\uFFFD'

/-- Reads the bytes that follow a first byte: the character, or the replacement character at the
first byte that does not continue it, and the rest. -/
def decodeFollowing (bits : Nat) : Nat → Nat → Nat → List UInt8 → Char × List UInt8
  | 0, _, _, rest => (Char.ofNat bits, rest)
  | _ + 1, _, _, [] => (replacement, [])
  | count + 1, least, greatest, byte :: rest =>
      if least ≤ byte.toNat ∧ byte.toNat ≤ greatest then
        decodeFollowing (bits * 0x40 + (byte.toNat - 0x80)) count 0x80 0xBF rest
      else (replacement, byte :: rest)

/-- Reads one character off the front of a nonempty list of bytes. -/
def decodeFirst (byte : UInt8) (rest : List UInt8) : Char × List UInt8 :=
  match lead? byte.toNat with
  | none => (replacement, rest)
  | some lead => decodeFollowing lead.bits lead.following lead.least lead.greatest rest

theorem decodeFollowing_length (bits count least greatest : Nat) (bytes : List UInt8) :
    (decodeFollowing bits count least greatest bytes).2.length ≤ bytes.length := by
  induction bytes generalizing bits count least greatest with
  | nil => cases count <;> simp [decodeFollowing]
  | cons byte rest restIH =>
      cases count with
      | zero => simp [decodeFollowing]
      | succ count =>
          unfold decodeFollowing
          split
          · exact Nat.le_succ_of_le (restIH _ _ _ _)
          · exact Nat.le_refl _

theorem decodeFirst_length (byte : UInt8) (rest : List UInt8) :
    (decodeFirst byte rest).2.length ≤ rest.length := by
  unfold decodeFirst
  split
  · exact Nat.le_refl _
  · exact decodeFollowing_length _ _ _ _ _

def decode : List UInt8 → List Char
  | [] => []
  | byte :: rest =>
      (decodeFirst byte rest).1 :: decode (decodeFirst byte rest).2
termination_by bytes => bytes.length
decreasing_by
  have := decodeFirst_length byte rest
  simp only [List.length_cons]
  omega

@[simp] theorem width_nil : width [] = 0 := rfl

@[simp] theorem width_cons (c : Char) (rest : List Char) :
    width (c :: rest) = c.utf8Size + width rest := rfl

theorem width_append (left right : List Char) :
    width (left ++ right) = width left + width right := by
  induction left with
  | nil => simp
  | cons c left leftIH => simp [leftIH, Nat.add_assoc]

end Stencil.Text
