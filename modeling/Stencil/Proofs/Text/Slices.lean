import Stencil.Text.Utf8

namespace Stencil.Text

/-! Places in a text counted in bytes.

A place that cuts no character is a boundary.  Between two boundaries `slice` is exactly the text
that stands there.
-/

/-- The front of a text, of so many bytes. -/
def takeBytes : Nat → List Char → List Char
  | _, [] => []
  | count, c :: rest => if count = 0 then [] else c :: takeBytes (count - c.utf8Size) rest

/-- What is left of a text without so many bytes at its front. -/
def dropBytes : Nat → List Char → List Char
  | _, [] => []
  | count, c :: rest => if count = 0 then c :: rest else dropBytes (count - c.utf8Size) rest

/-- The text between two places. -/
def slice (start stop : Nat) (text : List Char) : List Char :=
  takeBytes (stop - start) (dropBytes start text)

/-- No character lies on both sides of the place. -/
def IsBoundary (text : List Char) (place : Nat) : Prop :=
  ∃ before after, text = before ++ after ∧ width before = place

theorem width_pos {text : List Char} (nonempty : text ≠ []) : 0 < width text := by
  cases text with
  | nil => contradiction
  | cons c rest =>
      have positive := c.utf8Size_pos
      rw [width_cons]
      omega

@[simp] theorem takeBytes_zero (text : List Char) : takeBytes 0 text = [] := by
  cases text <;> simp [takeBytes]

@[simp] theorem dropBytes_zero (text : List Char) : dropBytes 0 text = text := by
  cases text <;> simp [dropBytes]

theorem takeBytes_width_append (left right : List Char) :
    takeBytes (width left) (left ++ right) = left := by
  induction left with
  | nil => exact takeBytes_zero right
  | cons c left leftIH =>
      have positive := c.utf8Size_pos
      have some : ¬ c.utf8Size + width left = 0 := by omega
      simp only [List.cons_append, width_cons, takeBytes, if_neg some, Nat.add_sub_cancel_left,
        leftIH]

theorem dropBytes_width_append (left right : List Char) :
    dropBytes (width left) (left ++ right) = right := by
  induction left with
  | nil => exact dropBytes_zero right
  | cons c left leftIH =>
      have positive := c.utf8Size_pos
      have some : ¬ c.utf8Size + width left = 0 := by omega
      simp only [List.cons_append, width_cons, dropBytes, if_neg some, Nat.add_sub_cancel_left,
        leftIH]

theorem slice_between (before middle after : List Char) :
    slice (width before) (width before + width middle) (before ++ (middle ++ after)) = middle := by
  rw [slice, dropBytes_width_append, Nat.add_sub_cancel_left, takeBytes_width_append]

end Stencil.Text
