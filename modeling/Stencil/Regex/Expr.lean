import Stencil.Regex.CharClass

namespace Stencil.Regex

/-! Regular expressions: what remains of one when all its flags are worked in, and texts as
expressions that match just them. -/

/-- A condition on a place in a text.  `ascii` says which characters belong to words. -/
inductive Look where
  | textStart
  | textEnd
  | lineStart
  | lineEnd
  /-- As `lineStart` where lines may also end in a carriage return. -/
  | lineStartCr
  | lineEndCr
  | wordEdge (ascii : Bool)
  | noWordEdge (ascii : Bool)
  | wordStart (ascii : Bool)
  | wordEnd (ascii : Bool)
  | wordStartHalf (ascii : Bool)
  | wordEndHalf (ascii : Bool)
deriving DecidableEq

inductive Expr where
  | empty
  | set (chars : CharClass)
  | look (condition : Look)
  | seq (first second : Expr)
  /-- The first branch is preferred. -/
  | alt (first second : Expr)
  /-- From `least` to `most` times, as often as possible or, if not greedy, as seldom. -/
  | repeated (least : Nat) (most : Option Nat) (greedy : Bool) (inner : Expr)
  | group (index : Nat) (inner : Expr)

namespace Expr

def seqs (parts : List Expr) : Expr :=
  match parts with
  | [] => .empty
  | [part] => part
  | part :: rest => .seq part (seqs rest)

def size : Expr → Nat
  | .empty => 0
  | .set _ => 1
  | .look _ => 1
  | .seq first second => first.size + second.size
  | .alt first second => first.size + second.size + 1
  | .repeated least most _ inner =>
      match most with
      | none => (max least 1) * inner.size + 2
      | some most => least * inner.size + (most - least) * (inner.size + 1)
  | .group _ inner => inner.size + 2

end Expr

/-- The characters with a meaning of their own somewhere in a regular expression. -/
def isMeta (c : Char) : Bool :=
  "\\.+*?()|[]\x7b\x7d^$#&-~".toList.contains c

/-- The expression that matches one character. -/
def quoteChar (c : Char) : List Char :=
  if isMeta c then ['\\', c] else [c]

end Stencil.Regex
