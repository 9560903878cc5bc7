import Stencil.Unicode.Folding

namespace Stencil.Regex

open Unicode

/-! Sets of characters as expressions. -/

inductive CharClass where
  | none
  | range (first last : Char)
  | table (ranges : List (Nat × Nat))
  | union (left right : CharClass)
  | inter (left right : CharClass)
  | diff (left right : CharClass)
  | symmDiff (left right : CharClass)
  | negate (inner : CharClass)
  /-- The characters that differ from a member in case at most. -/
  | anyCase (inner : CharClass)
  /-- The same for ASCII letters only. -/
  | anyAsciiCase (inner : CharClass)

namespace CharClass

/-- The ASCII letters that differ from a character in case at most, or the character. -/
def asciiFoldingClass (c : Char) : List Char :=
  [c.toLower, c.toUpper]

def mem : CharClass → Char → Bool
  | .none, _ => false
  | .range first last, c => first ≤ c && c ≤ last
  | .table ranges, c => inRanges c.toNat ranges
  | .union left right, c => left.mem c || right.mem c
  | .inter left right, c => left.mem c && right.mem c
  | .diff left right, c => left.mem c && !right.mem c
  | .symmDiff left right, c => left.mem c != right.mem c
  | .negate inner, c => !inner.mem c
  | .anyCase inner, c => inner.mem c || (foldingClass c).any inner.mem
  | .anyAsciiCase inner, c => inner.mem c || (asciiFoldingClass c).any inner.mem

def single (c : Char) : CharClass :=
  .range c c

def all : CharClass :=
  .negate .none

def unions (classes : List CharClass) : CharClass :=
  classes.foldr .union .none

/-- The ranges of single characters and pairs of bounds. -/
def ofBounds (bounds : List (Char × Char)) : CharClass :=
  unions (bounds.map fun (first, last) => .range first last)

/-- Tests for a class that can hold ASCII characters only, where all other characters are alike. -/
def isAsciiOnly (set : CharClass) : Bool :=
  !set.mem '\u0080'

@[simp] theorem mem_none (c : Char) : mem .none c = false := rfl

@[simp] theorem mem_all (c : Char) : mem all c = true := rfl

@[simp] theorem mem_union (left right : CharClass) (c : Char) :
    mem (.union left right) c = (left.mem c || right.mem c) := rfl

@[simp] theorem mem_negate (inner : CharClass) (c : Char) : mem (.negate inner) c = !inner.mem c :=
  rfl

end CharClass

end Stencil.Regex
