import Stencil.Proofs.Regex.Searching

namespace Stencil.Regex

/-! Searching for runs of characters.

A search for a longest run is in one of two states between two rounds: no thread has begun, or one
thread stands at the head of a loop.  What one round makes of each state is read off the program
(`BeginsAt`, `LoopsAt`), and the end of the match follows by induction on the text.
-/

variable {program : Program} {emptySlots slots : Slots} {set : CharClass} {head place : Nat}
  {before : Option Char} {text : List Char}

/-- A run of characters of a class, as long as possible. -/
def runOf (set : CharClass) : Expr :=
  .repeated 1 none true (.set set)

/-- While nothing has begun, a character of the class begins a match and others are skipped. -/
def BeginsAt (program : Program) (emptySlots : Slots) (set : CharClass) (head : Nat) : Prop :=
  ∀ place before text,
    nextThreads program emptySlots place before text [] none =
        (if text.head?.any set.mem then
          [⟨head, emptySlots.setIfInBounds 0 (some place)⟩] else []) ∧
      nextBest program emptySlots place before text [] none = none

/-- At the head of the loop the match may end, and a character of the class makes it longer. -/
def LoopsAt (program : Program) (emptySlots : Slots) (set : CharClass) (head : Nat)
    (slots : Slots) : Prop :=
  ∀ place before text best,
    nextThreads program emptySlots place before text [⟨head, slots⟩] best =
        (if text.head?.any set.mem then [⟨head, slots⟩] else []) ∧
      nextBest program emptySlots place before text [⟨head, slots⟩] best =
        some (slots.setIfInBounds 1 (some place))

theorem started_cons_isEmpty (thread : Thread) (threads : List Thread) (best : Option Slots) :
    (started program emptySlots place (thread :: threads) best).isEmpty = false := by
  cases best <;> rfl

theorem searchFrom_begin (begins : BeginsAt program emptySlots set head)
    (text : List Char) (place : Nat) (before : Option Char) :
    searchFrom program emptySlots place before [] none text =
      match text.dropWhile (!set.mem ·) with
      | [] => none
      | c :: rest =>
          let start := place + (text.takeWhile (!set.mem ·)).length
          searchFrom program emptySlots (start + 1) (some c)
            [⟨head, emptySlots.setIfInBounds 0 (some start)⟩] none rest := by
  induction text generalizing place before with
  | nil => rw [searchFrom_nil rfl, (begins place before []).2, List.dropWhile_nil]
  | cons c rest restIH =>
      obtain ⟨threads, best⟩ := begins place before (c :: rest)
      rw [searchFrom_cons rfl, threads, best, List.head?_cons, Option.any_some]
      cases inside : set.mem c with
      | true =>
          rw [List.dropWhile_cons_of_neg (by simp [inside]),
            List.takeWhile_cons_of_neg (by simp [inside])]
          rfl
      | false =>
          have places (count : Nat) : place + 1 + count = place + (count + 1) := by omega
          rw [List.dropWhile_cons_of_pos (by simp [inside]),
            List.takeWhile_cons_of_pos (by simp [inside])]
          simp only [restIH, List.length_cons, places, Bool.false_eq_true, if_false]

theorem searchFrom_loop (loops : LoopsAt program emptySlots set head slots)
    (text : List Char) (place : Nat) (before : Option Char) (best : Option Slots) :
    searchFrom program emptySlots place before [⟨head, slots⟩] best text =
      some (slots.setIfInBounds 1 (some (place + (text.takeWhile set.mem).length))) := by
  induction text generalizing place before best with
  | nil =>
      rw [searchFrom_nil (started_cons_isEmpty _ _ _), (loops place before [] best).2]
      rfl
  | cons c rest restIH =>
      obtain ⟨threads, found⟩ := loops place before (c :: rest) best
      rw [searchFrom_cons (started_cons_isEmpty _ _ _), threads, found, List.head?_cons,
        Option.any_some]
      cases inside : set.mem c with
      | true =>
          have places (count : Nat) : place + 1 + count = place + (count + 1) := by omega
          rw [List.takeWhile_cons_of_pos inside, List.length_cons, if_pos rfl, restIH, places]
      | false =>
          rw [List.takeWhile_cons_of_neg (by simp [inside]), if_neg Bool.false_ne_true,
            searchFrom_done rfl]
          rfl

theorem advance_cons_found {code : Code} {thread : Thread} (rest : List Thread)
    (after : Option Char) (found : code[thread.address]? = some .found) :
    advance code after (thread :: rest) = ([], some thread.slots) := by
  rw [advance, found]

theorem advance_cons_set {code : Code} {thread : Thread} {chars : CharClass} {next : Nat}
    (rest : List Thread) (after : Option Char)
    (instruction : code[thread.address]? = some (.set chars next)) :
    advance code after (thread :: rest) =
      ((if after.any chars.mem then [⟨next, thread.slots⟩] else []) ++ (advance code after rest).1,
        (advance code after rest).2) := by
  rw [advance, instruction]
  cases inside : after.any chars.mem with
  | true => simp [inside]
  | false => simp [inside]

/-- A program that leads straight to the class of the first character. -/
theorem BeginsAt.of_settled (first : Nat)
    (instruction : program.code[first]? = some (.set set head))
    (settled : ∀ place before text,
      round program.code place before text (started program emptySlots place [] none) =
        advance program.code text.head? [⟨first, emptySlots.setIfInBounds 0 (some place)⟩]) :
    BeginsAt program emptySlots set head := by
  intro place before text
  have moved := settled place before text
  rw [advance_cons_set [] _ instruction] at moved
  rw [nextThreads, nextBest, moved]
  exact ⟨List.append_nil _, rfl⟩

/-- A loop whose head leads first back into it and then to the end of the search. -/
theorem LoopsAt.of_settled (again : Nat)
    (instruction : program.code[again]? = some (.set set head))
    (found : program.code[0]? = some .found)
    (settled : ∀ place before text best, ∃ others,
      round program.code place before text
          (started program emptySlots place [⟨head, slots⟩] best) =
        advance program.code text.head? (⟨again, slots⟩ :: ⟨0, slots⟩ :: others)) :
    LoopsAt program emptySlots set head slots := by
  intro place before text best
  obtain ⟨others, moved⟩ := settled place before text best
  rw [advance_cons_set _ _ instruction, advance_cons_found _ _ found] at moved
  rw [nextThreads, nextBest, moved]
  exact ⟨List.append_nil _, rfl⟩

theorem mem_of_dropWhile {c : Char} {rest : List Char}
    (left : text.dropWhile (!set.mem ·) = c :: rest) : set.mem c = true := by
  have stops := List.head?_dropWhile_not (!set.mem ·) text
  rw [left] at stops
  simpa using stops

section Run

/-- The program of a run: the loop begins at its own address and ends in the first one. -/
def runProgram (set : CharClass) : Program :=
  ⟨#[.found, .split 2 0, .set set 1], 2⟩

theorem ofExpr_runOf (set : CharClass) : Program.ofExpr (runOf set) = runProgram set := rfl

theorem begins_runProgram (set : CharClass) (emptySlots : Slots) :
    BeginsAt (runProgram set) emptySlots set 1 :=
  .of_settled 2 rfl fun _ _ _ => rfl

theorem loops_runProgram (set : CharClass) (emptySlots slots : Slots) :
    LoopsAt (runProgram set) emptySlots set 1 slots := by
  refine .of_settled 2 rfl rfl fun place before text best => ⟨[], ?_⟩
  cases best <;> rfl

/-- A search for a run finds the first one, as long as it is. -/
theorem searchFrom_runOf (set : CharClass) (emptySlots : Slots) (place : Nat)
    (before : Option Char) (text : List Char) :
    searchFrom (Program.ofExpr (runOf set)) emptySlots place before [] none text =
      let start := place + (text.takeWhile (!set.mem ·)).length
      let rest := text.dropWhile (!set.mem ·)
      if rest = [] then none
      else some ((emptySlots.setIfInBounds 0 (some start)).setIfInBounds 1
        (some (start + (rest.takeWhile set.mem).length))) := by
  rw [ofExpr_runOf, searchFrom_begin (begins_runProgram set emptySlots)]
  cases left : text.dropWhile (!set.mem ·) with
  | nil => rfl
  | cons c rest =>
      have inside := mem_of_dropWhile left
      simp only [searchFrom_loop (loops_runProgram set emptySlots _), reduceCtorEq, if_false,
        List.takeWhile_cons_of_pos inside, List.length_cons]
      rw [Nat.add_assoc, Nat.add_comm 1]

end Run

section ClosedRun

/-- A run and what closes it: a run of marks, a run of breaks or the end of the text. -/
def closedRun (body marks breaks : CharClass) : Expr :=
  .seq (runOf body) (.alt (runOf marks) (.alt (runOf breaks) (.look .textEnd)))

/-- Its program: the body loops at address 8, the marks at 5 and the breaks at 2. -/
def closedProgram (body marks breaks : CharClass) : Program :=
  ⟨#[.found, .look .textEnd 0, .split 3 0, .set breaks 2, .split 3 1, .split 6 0, .set marks 5,
    .split 6 4, .split 9 7, .set body 8], 9⟩

theorem ofExpr_closedRun (body marks breaks : CharClass) :
    Program.ofExpr (closedRun body marks breaks) = closedProgram body marks breaks := by
  simp [Program.ofExpr, closedRun, runOf, compile, emitLoop, emitTimes, emit, loopSplit,
    closedProgram]

variable {body marks breaks : CharClass}

theorem begins_closedProgram (body marks breaks : CharClass) (emptySlots : Slots) :
    BeginsAt (closedProgram body marks breaks) emptySlots body 8 :=
  .of_settled 9 rfl fun _ _ _ => rfl

theorem loops_marks (emptySlots slots : Slots) :
    LoopsAt (closedProgram body marks breaks) emptySlots marks 5 slots := by
  refine .of_settled 6 rfl rfl fun place before text best => ?_
  cases best with
  | none => exact ⟨[fresh (closedProgram body marks breaks) emptySlots place], rfl⟩
  | some => exact ⟨[], rfl⟩

theorem loops_breaks (emptySlots slots : Slots) :
    LoopsAt (closedProgram body marks breaks) emptySlots breaks 2 slots := by
  refine .of_settled 3 rfl rfl fun place before text best => ?_
  cases best with
  | none => exact ⟨[fresh (closedProgram body marks breaks) emptySlots place], rfl⟩
  | some => exact ⟨[], rfl⟩

/-- In the body the run may go on, be closed by marks or breaks, or end with the text. -/
theorem settled_body (slots freshSlots : Slots) (place : Nat) (before after : Option Char) :
    (closure (closedProgram body marks breaks).code place before after 23
        (Array.replicate 10 false) #[] [⟨8, slots⟩, ⟨9, freshSlots⟩]).2.toList =
      [⟨9, slots⟩, ⟨6, slots⟩, ⟨3, slots⟩] ++ (if after.isNone then [⟨0, slots⟩] else []) := by
  cases after <;> simp [closedProgram, closure, Look.holds]

theorem round_body (emptySlots slots : Slots) (place : Nat) (before : Option Char)
    (text : List Char) :
    round (closedProgram body marks breaks).code place before text
        (started (closedProgram body marks breaks) emptySlots place [⟨8, slots⟩] none) =
      ((if text.head?.any body.mem then [⟨8, slots⟩] else []) ++
        ((if text.head?.any marks.mem then [⟨5, slots⟩] else []) ++
          (if text.head?.any breaks.mem then [⟨2, slots⟩] else [])),
        if text = [] then some slots else none) := by
  have begun : started (closedProgram body marks breaks) emptySlots place [⟨8, slots⟩] none =
      [⟨8, slots⟩, ⟨9, emptySlots.setIfInBounds 0 (some place)⟩] := rfl
  have size : (closedProgram body marks breaks).code.size = 10 := rfl
  rw [round, begun, size]
  simp only [List.length_cons, List.length_nil, Nat.reduceAdd, Nat.reduceMul, settled_body]
  rw [List.cons_append, List.cons_append, List.cons_append, advance_cons_set _ _ rfl,
    advance_cons_set _ _ rfl, advance_cons_set _ _ rfl]
  cases text with
  | nil => rfl
  | cons c rest => simp [advance]

/-- A run in the body goes on to the end of the body and of what closes it. -/
theorem searchFrom_body (others : ∀ c, body.mem c = !(marks.mem c || breaks.mem c))
    (apart : ∀ c, marks.mem c = true → breaks.mem c = false) (emptySlots slots : Slots)
    (text : List Char) (place : Nat) (before : Option Char) :
    searchFrom (closedProgram body marks breaks) emptySlots place before [⟨8, slots⟩] none text =
      let tail := text.dropWhile body.mem
      let closing := if tail.head?.any marks.mem then marks.mem else breaks.mem
      some (slots.setIfInBounds 1 (some (place + (text.takeWhile body.mem).length +
        (tail.takeWhile closing).length))) := by
  induction text generalizing place before with
  | nil =>
      rw [searchFrom_nil rfl, nextBest, round_body]
      rfl
  | cons c rest restIH =>
      have places (count : Nat) : place + 1 + count = place + (count + 1) := by omega
      have other := others c
      rw [searchFrom_cons rfl, nextThreads, nextBest, round_body]
      cases inBody : body.mem c with
      | true =>
          rw [inBody] at other
          have neither : marks.mem c = false ∧ breaks.mem c = false := by simpa using other
          simp [inBody, neither, bestAfter, restIH, places]
      | false =>
          -- The body ends here, and the first character of what closes it settles which loop runs.
          rw [inBody] at other
          cases isMark : marks.mem c with
          | true =>
              have noBreak := apart c isMark
              simp [inBody, isMark, noBreak, bestAfter, searchFrom_loop (loops_marks _ _), places]
          | false =>
              have isBreak : breaks.mem c = true := by simpa [isMark] using other
              simp [inBody, isMark, isBreak, bestAfter, searchFrom_loop (loops_breaks _ _), places]

/-- A search for a closed run finds the first run of its body and all of what closes it. -/
theorem searchFrom_closedRun (others : ∀ c, body.mem c = !(marks.mem c || breaks.mem c))
    (apart : ∀ c, marks.mem c = true → breaks.mem c = false) (emptySlots : Slots) (place : Nat)
    (before : Option Char) (text : List Char) :
    searchFrom (Program.ofExpr (closedRun body marks breaks)) emptySlots place before [] none
        text =
      let start := place + (text.takeWhile (!body.mem ·)).length
      let rest := text.dropWhile (!body.mem ·)
      let tail := rest.dropWhile body.mem
      let closing := if tail.head?.any marks.mem then marks.mem else breaks.mem
      if rest = [] then none
      else some ((emptySlots.setIfInBounds 0 (some start)).setIfInBounds 1
        (some (start + (rest.takeWhile body.mem).length +
          (tail.takeWhile closing).length))) := by
  rw [ofExpr_closedRun, searchFrom_begin (begins_closedProgram body marks breaks emptySlots)]
  cases left : text.dropWhile (!body.mem ·) with
  | nil => rfl
  | cons c rest =>
      have inside := mem_of_dropWhile left
      have places (start count : Nat) : start + 1 + count = start + (count + 1) := by omega
      simp only [searchFrom_body others apart, reduceCtorEq, if_false, places,
        List.takeWhile_cons_of_pos inside, List.dropWhile_cons_of_pos inside, List.length_cons]

end ClosedRun

end Stencil.Regex
