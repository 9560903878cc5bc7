import Stencil.Regex.Search

namespace Stencil.Regex

/-! What expressions match, and what programs do, apart from any order of preference.

`Expr.Takes` reads an expression as a relation between the cursor in front of a match and the cursor
behind it.  `RunsIn` follows one way through a program up to the instruction that ends a search.
-/

/-- How far a match has come: the places it has noted, its place in the text, the character in front
of that place and the text behind it. -/
structure Cursor where
  slots : Slots
  place : Nat
  before : Option Char
  rest : List Char

namespace Cursor

def note (cursor : Cursor) (slot : Nat) : Cursor :=
  { cursor with slots := cursor.slots.setIfInBounds slot (some cursor.place) }

def move (cursor : Cursor) (c : Char) (rest : List Char) : Cursor :=
  { cursor with place := cursor.place + 1, before := some c, rest }

/-- The cursor behind some text. -/
def skip (cursor : Cursor) (taken rest : List Char) : Cursor :=
  { cursor with
    place := cursor.place + taken.length
    before := taken.getLast?.or cursor.before
    rest }

end Cursor

/-- A relation that holds a number of times in a row. -/
inductive Repeats (step : Cursor → Cursor → Prop) : Nat → Cursor → Cursor → Prop where
  | zero {cursor : Cursor} : Repeats step 0 cursor cursor
  | succ {count : Nat} {start middle stop : Cursor} :
      step start middle → Repeats step count middle stop → Repeats step (count + 1) start stop

/-- The matches of an expression. -/
def Expr.Takes : Expr → Cursor → Cursor → Prop
  | .empty, start, stop => start = stop
  | .set chars, start, stop =>
      ∃ c rest, start.rest = c :: rest ∧ chars.mem c = true ∧ stop = start.move c rest
  | .look condition, start, stop =>
      condition.holds start.before start.rest.head? = true ∧ start = stop
  | .seq first second, start, stop =>
      ∃ middle, first.Takes start middle ∧ second.Takes middle stop
  | .alt first second, start, stop => first.Takes start stop ∨ second.Takes start stop
  | .repeated least most _ inner, start, stop =>
      ∃ count, least ≤ count ∧ (∀ bound ∈ most, count ≤ max least bound) ∧
        Repeats inner.Takes count start stop
  | .group index inner, start, stop =>
      ∃ last, inner.Takes (start.note (2 * index)) last ∧ stop = last.note (2 * index + 1)

/-- One instruction of a program, from its address to the next one. -/
inductive Steps (code : Code) : Nat → Cursor → Nat → Cursor → Prop where
  | set {address next : Nat} {start : Cursor} {chars : CharClass} {c : Char} {rest : List Char} :
      code[address]? = some (.set chars next) → start.rest = c :: rest → chars.mem c = true →
      Steps code address start next (start.move c rest)
  | look {address next : Nat} {start : Cursor} {condition : Look} :
      code[address]? = some (.look condition next) →
      condition.holds start.before start.rest.head? = true → Steps code address start next start
  | first {address first second : Nat} {start : Cursor} :
      code[address]? = some (.split first second) → Steps code address start first start
  | second {address first second : Nat} {start : Cursor} :
      code[address]? = some (.split first second) → Steps code address start second start
  | save {address slot next : Nat} {start : Cursor} :
      code[address]? = some (.save slot next) → Steps code address start next (start.note slot)

/-- A way through a program from an address to the end of a search. -/
inductive RunsIn (code : Code) : Nat → Nat → Cursor → Cursor → Prop where
  | found {address : Nat} {cursor : Cursor} :
      code[address]? = some .found → RunsIn code 0 address cursor cursor
  | step {steps address next : Nat} {start middle stop : Cursor} :
      Steps code address start next middle → RunsIn code steps next middle stop →
      RunsIn code (steps + 1) address start stop

/-- A way through a program, however long. -/
def Runs (code : Code) (address : Nat) (start stop : Cursor) : Prop :=
  ∃ steps, RunsIn code steps address start stop

namespace Steps

variable {code : Code} {address next : Nat} {start stop : Cursor}

theorem set_iff {chars : CharClass} {after : Nat}
    (instruction : code[address]? = some (.set chars after)) :
    Steps code address start next stop ↔ next = after ∧ (Expr.set chars).Takes start stop := by
  constructor
  · intro step
    cases step with
    | set found shape member =>
        rw [instruction] at found
        cases found
        exact ⟨rfl, _, _, shape, member, rfl⟩
    | _ => simp_all
  · intro taken
    obtain ⟨rfl, c, rest, shape, member, rfl⟩ := taken
    exact .set instruction shape member

theorem look_iff {condition : Look} {after : Nat}
    (instruction : code[address]? = some (.look condition after)) :
    Steps code address start next stop ↔ next = after ∧ (Expr.look condition).Takes start stop := by
  constructor
  · intro step
    cases step with
    | look found holds =>
        rw [instruction] at found
        cases found
        exact ⟨rfl, holds, rfl⟩
    | _ => simp_all
  · intro taken
    obtain ⟨rfl, holds, rfl⟩ := taken
    exact .look instruction holds

theorem split_iff {first second : Nat}
    (instruction : code[address]? = some (.split first second)) :
    Steps code address start next stop ↔ (next = first ∨ next = second) ∧ stop = start := by
  constructor
  · intro step
    cases step <;> simp_all
  · intro ways
    obtain ⟨rfl | rfl, rfl⟩ := ways
    · exact .first instruction
    · exact .second instruction

theorem loop_iff {greedy : Bool} {again out : Nat}
    (instruction : code[address]? = some (loopSplit greedy again out)) :
    Steps code address start next stop ↔ (next = again ∨ next = out) ∧ stop = start := by
  cases greedy with
  | true => exact split_iff instruction
  | false => rw [split_iff instruction, Or.comm]

theorem save_iff {slot after : Nat} (instruction : code[address]? = some (.save slot after)) :
    Steps code address start next stop ↔ next = after ∧ stop = start.note slot := by
  constructor
  · intro step
    cases step <;> simp_all
  · intro noted
    obtain ⟨rfl, rfl⟩ := noted
    exact .save instruction

theorem not_found (step : Steps code address start next stop) :
    code[address]? ≠ some .found := by
  cases step <;> simp_all

end Steps

theorem loopSplit_not_found {code : Code} {address again out : Nat} {greedy : Bool}
    (instruction : code[address]? = some (loopSplit greedy again out)) :
    code[address]? ≠ some .found := by
  rw [instruction]
  cases greedy <;> simp [loopSplit]

theorem RunsIn.of_not_found {code : Code} {steps address : Nat} {start stop : Cursor}
    (notFound : code[address]? ≠ some .found) (run : RunsIn code steps address start stop) :
    ∃ left next middle, steps = left + 1 ∧ Steps code address start next middle ∧
      RunsIn code left next middle stop := by
  cases run with
  | found found => contradiction
  | step step rest => exact ⟨_, _, _, rfl, step, rest⟩

theorem Runs.step {code : Code} {address next : Nat} {start middle stop : Cursor}
    (step : Steps code address start next middle) (rest : Runs code next middle stop) :
    Runs code address start stop := by
  obtain ⟨steps, run⟩ := rest
  exact ⟨steps + 1, .step step run⟩

namespace Repeats

variable {step : Cursor → Cursor → Prop}

theorem zero_iff {start stop : Cursor} : Repeats step 0 start stop ↔ start = stop := by
  constructor
  · intro repeats
    cases repeats
    rfl
  · intro same
    subst same
    exact .zero

theorem succ_iff {count : Nat} {start stop : Cursor} :
    Repeats step (count + 1) start stop ↔
      ∃ middle, step start middle ∧ Repeats step count middle stop := by
  constructor
  · intro repeats
    cases repeats with
    | succ taken others => exact ⟨_, taken, others⟩
  · intro both
    obtain ⟨middle, taken, others⟩ := both
    exact .succ taken others

theorem append {left right : Nat} {start middle stop : Cursor}
    (first : Repeats step left start middle) (second : Repeats step right middle stop) :
    Repeats step (left + right) start stop := by
  induction first with
  | zero => simpa using second
  | succ taken _ restIH =>
      rw [Nat.add_right_comm]
      exact .succ taken (restIH second)

theorem split {left right : Nat} {start stop : Cursor}
    (whole : Repeats step (left + right) start stop) :
    ∃ middle, Repeats step left start middle ∧ Repeats step right middle stop := by
  induction left generalizing start with
  | zero => exact ⟨start, .zero, by simpa using whole⟩
  | succ left leftIH =>
      rw [Nat.add_right_comm] at whole
      cases whole with
      | succ taken rest =>
          obtain ⟨middle, first, second⟩ := leftIH rest
          exact ⟨middle, .succ taken first, second⟩

end Repeats

end Stencil.Regex
