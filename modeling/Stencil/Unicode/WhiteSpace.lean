import Stencil.Unicode.Ranges

namespace Stencil.Unicode

/-! White space: the characters with the property `White_Space`, and trimming by it. -/

def whiteSpaceRanges : List (Nat × Nat) := [
  (0x0009, 0x000D), (0x0020, 0x0020), (0x0085, 0x0085), (0x00A0, 0x00A0), (0x1680, 0x1680),
  (0x2000, 0x200A), (0x2028, 0x2029), (0x202F, 0x202F), (0x205F, 0x205F), (0x3000, 0x3000)]

def isWhiteSpace (c : Char) : Bool :=
  inRanges c.toNat whiteSpaceRanges

def trimStart (text : List Char) : List Char :=
  text.dropWhile isWhiteSpace

def trimEnd : List Char → List Char
  | [] => []
  | c :: rest =>
      match trimEnd rest with
      | [] => if isWhiteSpace c then [] else [c]
      | kept => c :: kept

def trim (text : List Char) : List Char :=
  trimEnd (trimStart text)

theorem trimEnd_prefix_of (text : List Char) : trimEnd text <+: text := by
  induction text with
  | nil => exact List.prefix_rfl
  | cons c rest restIH =>
      unfold trimEnd
      split
      · split
        · exact List.nil_prefix
        · exact ⟨rest, rfl⟩
      · next kept _ =>
          obtain ⟨dropped, split⟩ := restIH
          exact ⟨dropped, by rw [List.cons_append, split]⟩

end Stencil.Unicode
