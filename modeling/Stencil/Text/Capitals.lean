import Stencil.Unicode.Alphabetic
import Stencil.Unicode.WhiteSpace
import Stencil.Unicode.Casing

namespace Stencil.Text

open Stencil.Unicode

/-! Capital letters at the starts of words and of sentences. -/

/-- Lowercases all but the first character of each run without white space, which is uppercased.
`atStart` says that the next character begins a run. -/
def titleizeFrom (atStart : Bool) : List Char → List Char
  | [] => []
  | c :: rest =>
      if isWhiteSpace c then c :: titleizeFrom true rest
      else (if atStart then upper c else lower c) ++ titleizeFrom false rest

/-- Gives every word a capital and lowers its other letters. -/
def titleize (text : List Char) : List Char :=
  titleizeFrom true text

/-- What has been met since the last letter. -/
inductive SentencePosition where
  /-- Nothing that ends a sentence, or nothing such directly before. -/
  | within
  /-- A character that ends a sentence, directly before. -/
  | ended
  /-- White space directly after the end of a sentence, or no letter in the whole text. -/
  | atStart
deriving DecidableEq

def isTerminator (c : Char) : Bool :=
  c = '.' || c = '?' || c = '!'

/-- The position after a character that is not a letter. -/
def SentencePosition.after (c : Char) : SentencePosition → SentencePosition
  | .atStart => .atStart
  | .ended => if isTerminator c then .ended else if isWhiteSpace c then .atStart else .within
  | .within => if isTerminator c then .ended else .within

def capitalizeFrom (position : SentencePosition) : List Char → List Char
  | [] => []
  | c :: rest =>
      if isAlphabetic c then
        (if position = .atStart then upper c else lower c) ++ capitalizeFrom .within rest
      else c :: capitalizeFrom (position.after c) rest

/-- Gives every sentence a capital and lowers its other letters. -/
def capitalizeSentences (text : List Char) : List Char :=
  capitalizeFrom .atStart text

end Stencil.Text
