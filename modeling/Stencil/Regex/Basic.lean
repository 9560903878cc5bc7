import Stencil.Regex.Reader
import Stencil.Regex.Search

namespace Stencil

open Regex in
/-- A regular expression ready for searching. -/
structure Regex where
  program : Program
  groupCount : Nat
  groupNames : List (String × Nat)

namespace Regex

/-! Regular expressions as they are used: reading one, and finding its matches in a text. -/

/-- Reads an expression, however large a program it needs. -/
def parse? (flags : Flags) (text : List Char) : Option Regex := do
  let (expr, state) ← readExpr? flags text
  return ⟨Program.ofExpr expr, state.groupCount, state.groupNames⟩

/-- The limits of an engine: it may refuse an expression that nests too deep or that needs too large
a program. -/
class Limits where
  allow : Flags → List Char → Bool

/-- Refuses nothing. -/
instance Limits.none : Limits where
  allow _ _ := true

/-- Refuses what needs a program of more instructions. -/
@[reducible] def Limits.instructions (most : Nat) : Limits where
  allow flags text := (readExpr? flags text).all fun read => read.1.size ≤ most

/-- Reads an expression that the engine does not refuse. -/
def build? [limits : Limits] (flags : Flags) (text : List Char) : Option Regex :=
  if limits.allow flags text then parse? flags text else .none

def emptySlots (regex : Regex) : Slots :=
  Array.replicate (2 * regex.groupCount + 2) none

/-- Tests whether the expression matches anywhere in a text. -/
def isMatch (regex : Regex) (text : List Char) : Bool :=
  (searchFrom regex.program regex.emptySlots 0 none [] none text).isSome

/-- A match: where it begins and ends, and the text of each group, `none` for one that takes no
part. -/
structure Match where
  start : Nat
  stop : Nat
  groups : List (Option (List Char))

/-- The match whose places are in the slots of a search that began at a place with the given
rest. -/
def matchOf? (regex : Regex) (place : Nat) (rest : List Char) (slots : Slots) : Option Match := do
  let start ← slots[0]?.join
  let stop ← slots[1]?.join
  let group (index : Nat) : Option (List Char) := do
    let start ← slots[2 * index]?.join
    let stop ← slots[2 * index + 1]?.join
    return (rest.drop (start - place)).take (stop - start)
  return ⟨start, stop, (List.range (regex.groupCount + 1)).map group⟩

/-- The first match from a place on; `before` is the character in front of it. -/
def findFrom? (regex : Regex) (place : Nat) (before : Option Char) (rest : List Char) :
    Option Match := do
  let slots ← searchFrom regex.program regex.emptySlots place before [] none rest
  regex.matchOf? place rest slots

/-- The first match that is not an empty one at the end of the match before, which ended at
`place` if `afterMatch` holds. -/
def findNext? (regex : Regex) (place : Nat) (afterMatch : Bool) (before : Option Char)
    (rest : List Char) : Option Match := do
  let found ← regex.findFrom? place before rest
  if afterMatch && found.stop = place then
    match rest with
    | [] => none
    | c :: rest => regex.findFrom? (place + 1) (some c) rest
  else return found

end Regex

end Stencil
