import Stencil.Regex.Basic

namespace Stencil.Regex

/-! Replacing matches.

A replacement is text with references to groups: `$name` or `$1`, where the name is as long as it
can be, or the same in braces.  Two dollar signs are one, and a dollar sign before anything else is
itself.
-/

inductive ReplacementPart where
  | text (c : Char)
  | group (index : Nat)
  | named (name : String)
deriving DecidableEq

def isReferenceChar (c : Char) : Bool :=
  c.isAlphanum || c = '_'

/-- The number that a reference writes: digits, with a plus in front at most. -/
def referenceNumber? (name : List Char) : Option Nat :=
  let digits := match name with
    | '+' :: rest => rest
    | rest => rest
  if digits.isEmpty || digits.any (fun c => !c.isDigit) then none
  else
    let value := digits.foldl (fun value c => 10 * value + (c.toNat - '0'.toNat)) 0
    if value < UInt64.size then some value else none

def referencePart (name : List Char) : ReplacementPart :=
  match referenceNumber? name with
  | some index => .group index
  | none => .named (String.ofList name)

/-- Reads a reference after its dollar sign. -/
def readReference? : List Char → Option (ReplacementPart × List Char)
  | [] => none
  | '$' :: rest => some (.text '$', rest)
  | '\x7b' :: rest =>
      match rest.dropWhile (· != '\x7d') with
      | [] => none
      | _ :: after => some (referencePart (rest.takeWhile (· != '\x7d')), after)
  | text =>
      let name := text.takeWhile isReferenceChar
      if name.isEmpty then none else some (referencePart name, text.dropWhile isReferenceChar)

theorem readReference?_shorter {text rest : List Char} {part : ReplacementPart}
    (found : readReference? text = some (part, rest)) : rest.length < text.length + 1 := by
  have dropped (test : Char → Bool) (whole : List Char) :
      (whole.dropWhile test).length ≤ whole.length := (List.dropWhile_sublist test).length_le
  unfold readReference? at found
  split at found
  · contradiction
  · simp only [Option.some.injEq, Prod.mk.injEq] at found
    rw [← found.2, List.length_cons]
    omega
  · next inner =>
      split at found
      · contradiction
      · next stop after split =>
          simp only [Option.some.injEq, Prod.mk.injEq] at found
          have := dropped (· != '\x7d') inner
          rw [split] at this
          simp only [List.length_cons] at this ⊢
          rw [← found.2]
          omega
  · dsimp only at found
    split at found
    · contradiction
    · simp only [Option.some.injEq, Prod.mk.injEq] at found
      rw [← found.2]
      exact Nat.lt_succ_of_le (dropped _ _)

def readReplacement : List Char → List ReplacementPart
  | [] => []
  | c :: rest =>
      if c = '$' then
        match _found : readReference? rest with
        | some (part, after) => part :: readReplacement after
        | none => .text '$' :: readReplacement rest
      else .text c :: readReplacement rest
termination_by text => text.length
decreasing_by
  · exact readReference?_shorter (by assumption)
  · simp
  · simp

/-- The text of a part for one match.  A group that is unknown or takes no part is empty. -/
def ReplacementPart.expand (regex : Regex) (found : Match) : ReplacementPart → List Char
  | .text c => [c]
  | .group index => (found.groups[index]?.join).getD []
  | .named name =>
      match regex.groupNames.find? (·.1 == name) with
      | some (_, index) => (found.groups[index]?.join).getD []
      | none => []

/-- Replaces the matches from a place on.  A match after the first of two is never an empty one at
the other's end, so the place moves on; the length of the text is enough fuel. -/
def replaceFrom (regex : Regex) (parts : List ReplacementPart) :
    Nat → Nat → Bool → Option Char → List Char → List Char
  | 0, _, _, _, rest => rest
  | fuel + 1, place, afterMatch, before, rest =>
      match regex.findNext? place afterMatch before rest with
      | none => rest
      | some found =>
          let taken := rest.take (found.stop - place)
          rest.take (found.start - place) ++ parts.flatMap (·.expand regex found) ++
            replaceFrom regex parts fuel found.stop true ((taken.getLast?).or before)
              (rest.drop (found.stop - place))

/-- Replaces every match in a text. -/
def replaceAll (regex : Regex) (replacement text : List Char) : List Char :=
  replaceFrom regex (readReplacement replacement) (text.length + 2) 0 false none text

end Stencil.Regex
