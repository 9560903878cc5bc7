import Stencil.Regex.Program
import Stencil.Unicode.Word

namespace Stencil.Regex

/-! Searching.

All ways through a program are followed at once, one character at a time, in the order of
preference.  At one place of the text no instruction is visited twice, since the earlier visit is
preferred; so a search takes time in proportion to the text and to the program.  Of the matches
that begin first the preferred one is found.
-/

/-- What a word consists of. -/
def isWordFor (ascii : Bool) (c : Char) : Bool :=
  if ascii then c.isAlphanum || c = '_' else Unicode.isWord c

namespace Look

/-- Tests the condition between two characters; `none` is the edge of the text. -/
def holds (condition : Look) (before after : Option Char) : Bool :=
  match condition with
  | .textStart => before.isNone
  | .textEnd => after.isNone
  | .lineStart => before.isNone || before = some '\n'
  | .lineEnd => after.isNone || after = some '\n'
  | .lineStartCr =>
      before.isNone || before = some '\n' || (before = some '\r' && after != some '\n')
  | .lineEndCr =>
      after.isNone || after = some '\r' || (after = some '\n' && before != some '\r')
  | .wordEdge ascii => before.any (isWordFor ascii) != after.any (isWordFor ascii)
  | .noWordEdge ascii => before.any (isWordFor ascii) == after.any (isWordFor ascii)
  | .wordStart ascii => !before.any (isWordFor ascii) && after.any (isWordFor ascii)
  | .wordEnd ascii => before.any (isWordFor ascii) && !after.any (isWordFor ascii)
  | .wordStartHalf ascii => !before.any (isWordFor ascii)
  | .wordEndHalf ascii => !after.any (isWordFor ascii)

end Look

/-- The places that were noted, two for each group: group 0 is the whole match. -/
abbrev Slots := Array (Option Nat)

/-- A way through the program: the address it has come to, and the places noted on it. -/
structure Thread where
  address : Nat
  slots : Slots

/-- Follows threads up to the instructions that take a character or end the search, in the order of
preference.  `visited` holds the addresses that have been visited at this place of the text.  Every
address adds at most two, so twice the size of the program and the number of threads is enough
fuel. -/
def closure (code : Code) (place : Nat) (before after : Option Char) :
    Nat → Array Bool → Array Thread → List Thread → Array Bool × Array Thread
  | 0, visited, settled, _ => (visited, settled)
  | _ + 1, visited, settled, [] => (visited, settled)
  | fuel + 1, visited, settled, thread :: rest =>
      if visited.getD thread.address true then
        closure code place before after fuel visited settled rest
      else
        let visited := visited.setIfInBounds thread.address true
        match code[thread.address]? with
        | none => closure code place before after fuel visited settled rest
        | some instruction =>
            match instruction with
            | .set .. | .found =>
                closure code place before after fuel visited (settled.push thread) rest
            | .look condition next =>
                if condition.holds before after then
                  closure code place before after fuel visited settled
                    ({ thread with address := next } :: rest)
                else closure code place before after fuel visited settled rest
            | .split first second =>
                closure code place before after fuel visited settled
                  ({ thread with address := first } :: { thread with address := second } :: rest)
            | .save slot next =>
                closure code place before after fuel visited settled
                  (⟨next, thread.slots.setIfInBounds slot (some place)⟩ :: rest)

/-- Moves settled threads over one character.  A thread that ends the search ends all threads that
are less preferred. -/
def advance (code : Code) (after : Option Char) :
    List Thread → List Thread × Option Slots
  | [] => ([], none)
  | thread :: rest =>
      match code[thread.address]? with
      | some .found => ([], some thread.slots)
      | some (.set chars next) =>
          let (threads, ended) := advance code after rest
          if after.any chars.mem then ({ thread with address := next } :: threads, ended)
          else (threads, ended)
      | _ => advance code after rest

/-- Searches from a place on with the threads that have come there.  While no match is known, a new
thread begins at every place. -/
def searchFrom (program : Program) (emptySlots : Slots) (place : Nat) (before : Option Char)
    (threads : List Thread) (best : Option Slots) (text : List Char) : Option Slots :=
  let started :=
    if best.isSome then threads
    else threads ++ [⟨program.start, emptySlots.setIfInBounds 0 (some place)⟩]
  if started.isEmpty then best
  else
    let (_, settled) := closure program.code place before text.head?
      (2 * program.code.size + started.length + 1)
      (Array.replicate program.code.size false) #[] started
    let (threads, ended) := advance program.code text.head? settled.toList
    let best := (ended.map fun slots => slots.setIfInBounds 1 (some place)).or best
    match text with
    | [] => best
    | c :: rest => searchFrom program emptySlots (place + 1) (some c) threads best rest

end Stencil.Regex
