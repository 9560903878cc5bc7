import Stencil.Unicode.Folding

namespace Stencil.Markup

open Unicode

/-! Patterns that are looked for in a text.

A pattern reads a match off the front of a text and gives what is left.  A match is never empty, so
what is left is always shorter; that is part of the type, and every walk over a text ends by it.
-/

structure Pattern where
  after? : List Char → Option (List Char)
  shorter : ∀ {text after : List Char}, after? text = some after → after.length < text.length

namespace Pattern

/-- One character that passes a test. -/
def char (test : Char → Bool) : Pattern where
  after?
    | [] => none
    | c :: rest => if test c then some rest else none
  shorter {text after} found := by
    cases text with
    | nil => simp at found
    | cons c rest =>
        simp only at found
        split at found
        · simp only [Option.some.injEq] at found
          simp [← found]
        · contradiction

def seq (first second : Pattern) : Pattern where
  after? text := (first.after? text).bind second.after?
  shorter {text after} found := by
    obtain ⟨middle, firstFound, secondFound⟩ := Option.bind_eq_some_iff.mp found
    exact Nat.lt_trans (second.shorter secondFound) (first.shorter firstFound)

def orElse (first second : Pattern) : Pattern where
  after? text := (first.after? text).or (second.after? text)
  shorter {text after} found := by
    cases firstFound : first.after? text with
    | some _ =>
        simp only [firstFound, Option.some_or, Option.some.injEq] at found
        exact found ▸ first.shorter firstFound
    | none =>
        simp only [firstFound, Option.none_or] at found
        exact second.shorter found

theorem length_dropWhile_le (test : Char → Bool) (text : List Char) :
    (text.dropWhile test).length ≤ text.length :=
  (List.dropWhile_sublist test).length_le

/-- A pattern after any number of characters that pass a test. -/
def skipping (test : Char → Bool) (pattern : Pattern) : Pattern where
  after? text := pattern.after? (text.dropWhile test)
  shorter {text _} found :=
    Nat.lt_of_lt_of_le (pattern.shorter found) (length_dropWhile_le test text)

/-- A pattern whose match does not begin with a character that passes a test. -/
def barring (test : Char → Bool) (pattern : Pattern) : Pattern where
  after? text := if (text.head?.any test) then none else pattern.after? text
  shorter {text after} found := by
    split at found
    · contradiction
    · exact pattern.shorter found

def run (test : Char → Bool) : Pattern where
  after?
    | [] => none
    | c :: rest => if test c then some (rest.dropWhile test) else none
  shorter {text after} found := by
    cases text with
    | nil => simp at found
    | cons c rest =>
        simp only at found
        split at found
        · simp only [Option.some.injEq] at found
          exact found ▸ Nat.lt_succ_of_le (length_dropWhile_le test rest)
        · contradiction

/-- What is left after the first place where a pattern matches. -/
def findAfter? (pattern : Pattern) : List Char → Option (List Char)
  | [] => none
  | c :: rest => (pattern.after? (c :: rest)).or (pattern.findAfter? rest)

theorem findAfter?_shorter {pattern : Pattern} {text after : List Char}
    (found : pattern.findAfter? text = some after) : after.length < text.length := by
  induction text with
  | nil => simp [findAfter?] at found
  | cons c rest restIH =>
      cases here : pattern.after? (c :: rest) with
      | some _ =>
          simp only [findAfter?, here, Option.some_or, Option.some.injEq] at found
          exact found ▸ pattern.shorter here
      | none =>
          simp only [findAfter?, here, Option.none_or] at found
          exact Nat.lt_succ_of_lt (restIH found)

def through (pattern : Pattern) : Pattern where
  after? := pattern.findAfter?
  shorter := findAfter?_shorter

/-- Two characters that differ in case at most. -/
def sameLetter (expected c : Char) : Bool :=
  c = expected || foldsTo c expected

def word : Char → List Char → Pattern
  | first, [] => char (sameLetter first)
  | first, second :: rest => seq (char (sameLetter first)) (word second rest)

/-- Removes every match, from left to right. -/
def removeAll (pattern : Pattern) : List Char → List Char
  | [] => []
  | c :: rest =>
      match _found : pattern.after? (c :: rest) with
      | some after => pattern.removeAll after
      | none => c :: pattern.removeAll rest
termination_by text => text.length
decreasing_by
  · exact pattern.shorter (by assumption)
  · simp

end Pattern

end Stencil.Markup
