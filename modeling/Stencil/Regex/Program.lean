import Stencil.Regex.Expr

namespace Stencil.Regex

/-! Programs for searching.

An expression is compiled to instructions that lead to one another.  Compiling starts from the
instruction that is to follow, so every instruction but the head of a loop is complete when it is
added.
-/

inductive Instruction where
  /-- Takes one character of a class. -/
  | set (chars : CharClass) (next : Nat)
  | look (condition : Look) (next : Nat)
  /-- Goes on in two ways, of which the first is preferred. -/
  | split (first second : Nat)
  /-- Notes the place in a slot. -/
  | save (slot next : Nat)
  | found

abbrev Code := Array Instruction

/-- A way in and a way out of a loop, in the order of preference. -/
def loopSplit (greedy : Bool) (again out : Nat) : Instruction :=
  if greedy then .split again out else .split out again

/-- Adds an instruction and gives its address. -/
def emit (code : Code) (instruction : Instruction) : Nat × Code :=
  (code.size, code.push instruction)

/-- Compiles a part a number of times in a row. -/
def emitTimes (part : Nat → Code → Nat × Code) : Nat → Nat → Code → Nat × Code
  | 0, next, code => (next, code)
  | count + 1, next, code =>
      let (next, code) := emitTimes part count next code
      part next code

/-- Compiles a part up to a number of times; after each time the rest may be left out. -/
def emitUpTo (part : Nat → Code → Nat × Code) (greedy : Bool) (out : Nat) :
    Nat → Code → Nat × Code
  | 0, code => (out, code)
  | count + 1, code =>
      let (next, code) := emitUpTo part greedy out count code
      let (entry, code) := part next code
      emit code (loopSplit greedy entry out)

/-- Compiles a part that repeats at least once.  The head of the loop is put in its place when the
part in front of it is known. -/
def emitLoop (part : Nat → Code → Nat × Code) (greedy : Bool) (out : Nat) (code : Code) :
    Nat × Code :=
  let (head, code) := emit code (.split out out)
  let (entry, code) := part head code
  (entry, code.setIfInBounds head (loopSplit greedy entry out))

/-- Compiles an expression that is followed by the instruction at `next` and gives the address to
begin at. -/
def compile : Expr → Nat → Code → Nat × Code
  | .empty, next, code => (next, code)
  | .set chars, next, code => emit code (.set chars next)
  | .look condition, next, code => emit code (.look condition next)
  | .seq first second, next, code =>
      let (next, code) := compile second next code
      compile first next code
  | .alt first second, next, code =>
      let (second, code) := compile second next code
      let (first, code) := compile first next code
      emit code (.split first second)
  | .group index inner, next, code =>
      let (next, code) := emit code (.save (2 * index + 1) next)
      let (next, code) := compile inner next code
      emit code (.save (2 * index) next)
  | .repeated least most greedy inner, next, code =>
      match most with
      | some most =>
          let (next, code) := emitUpTo (compile inner) greedy next (most - least) code
          emitTimes (compile inner) least next code
      | none =>
          let (entry, code) := emitLoop (compile inner) greedy next code
          match least with
          | 0 => emit code (loopSplit greedy entry next)
          | least + 1 => emitTimes (compile inner) least entry code

structure Program where
  code : Code
  start : Nat

/-- The program of an expression.  The first instruction ends a successful search. -/
def Program.ofExpr (expr : Expr) : Program :=
  let (start, code) := compile expr 0 #[.found]
  ⟨code, start⟩

end Stencil.Regex
