import Stencil.Unicode.CaseTable
import Stencil.Unicode.CaseContext

namespace Stencil.Unicode

/-! Full case mapping.

Every character has an uppercase and a lowercase image of one or more characters.  A text is
mapped character by character, with one exception on the way down: a capital sigma that ends a
word becomes the final sigma.
-/

namespace CaseRun

/-- The image of a code point, if the run holds it. -/
def image? (run : CaseRun) (code : Nat) : Option Nat :=
  if run.first ≤ code ∧ code ≤ run.last ∧ (code - run.first) % run.step = 0 then
    some ((code : Int) + run.shift).toNat
  else none

end CaseRun

/-- The image of a code point under an ascending list of runs; a code point in no run is its own
image. -/
def mapByRuns (code : Nat) : List CaseRun → Nat
  | [] => code
  | run :: rest =>
      if code < run.first then code
      else (run.image? code).getD (mapByRuns code rest)

/-- Looks a code point up in an ascending list of expansions. -/
def findExpansion (code : Nat) : List (Nat × List Nat) → Option (List Nat)
  | [] => none
  | (source, image) :: rest =>
      if code < source then none
      else if code = source then some image
      else findExpansion code rest

/-- The image of a character under a table of runs and a table of expansions. -/
def mapCase (runs : List CaseRun) (expansions : List (Nat × List Nat)) (c : Char) : List Char :=
  match findExpansion c.toNat expansions with
  | some image => image.map Char.ofNat
  | none => [Char.ofNat (mapByRuns c.toNat runs)]

def upper (c : Char) : List Char :=
  mapCase uppercaseRuns uppercaseExpansions c

def lower (c : Char) : List Char :=
  mapCase lowercaseRuns lowercaseExpansions c

def uppercase (text : List Char) : List Char :=
  text.flatMap upper

/-- Tests whether the first character that is not case-ignorable is a cased one. -/
def meetsCased (text : List Char) : Bool :=
  match text.dropWhile isCaseIgnorable with
  | [] => false
  | c :: _ => isCased c

/-- Lowercases a text whose preceding characters, nearest first, are `before`. -/
def lowercaseAfter (before : List Char) : List Char → List Char
  | [] => []
  | 'Σ' :: rest =>
      (if meetsCased before && !meetsCased rest then 'ς' else 'σ')
        :: lowercaseAfter ('Σ' :: before) rest
  | c :: rest => lower c ++ lowercaseAfter (c :: before) rest

def lowercase (text : List Char) : List Char :=
  lowercaseAfter [] text

theorem uppercase_append (left right : List Char) :
    uppercase (left ++ right) = uppercase left ++ uppercase right :=
  List.flatMap_append

end Stencil.Unicode
