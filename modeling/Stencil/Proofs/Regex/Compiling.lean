import Stencil.Regex.Program

namespace Stencil.Regex

/-! What compiling adds to code.

`Leads` says that some code holds the instructions of an expression between two addresses.  The
instructions that compiling adds make every program that has them lead so (`emits_compile`).  None
of them touches the places where the whole match begins and ends (`notesGroups_compile`).
-/

def Copies (link : Nat → Nat → Prop) : Nat → Nat → Nat → Prop
  | 0, entry, next => entry = next
  | count + 1, entry, next => ∃ middle, link entry middle ∧ Copies link count middle next

/-- Copies of a part in front of each of which there is a way out. -/
def Options (code : Code) (link : Nat → Nat → Prop) (greedy : Bool) (out : Nat) : Nat → Nat → Prop
  | 0, entry => entry = out
  | count + 1, entry =>
      ∃ inner middle, code[entry]? = some (loopSplit greedy inner out) ∧ link inner middle ∧
        Options code link greedy out count middle

def Leads (code : Code) : Expr → Nat → Nat → Prop
  | .empty, entry, next => entry = next
  | .set chars, entry, next => code[entry]? = some (.set chars next)
  | .look condition, entry, next => code[entry]? = some (.look condition next)
  | .seq first second, entry, next =>
      ∃ middle, Leads code first entry middle ∧ Leads code second middle next
  | .alt first second, entry, next =>
      ∃ left right, code[entry]? = some (.split left right) ∧ Leads code first left next ∧
        Leads code second right next
  | .group index inner, entry, next =>
      ∃ opened closed, code[entry]? = some (.save (2 * index) opened) ∧
        Leads code inner opened closed ∧ code[closed]? = some (.save (2 * index + 1) next)
  | .repeated least (some most) greedy inner, entry, next =>
      ∃ middle, Copies (Leads code inner) least entry middle ∧
        Options code (Leads code inner) greedy next (most - least) middle
  | .repeated least none greedy inner, entry, next =>
      ∃ head again, code[head]? = some (loopSplit greedy again next) ∧ Leads code inner again head ∧
        match least with
        | 0 => code[entry]? = some (loopSplit greedy again next)
        | least + 1 => Copies (Leads code inner) least entry again

structure Extends (earlier later : Code) : Prop where
  size_le : earlier.size ≤ later.size
  kept : ∀ address, address < earlier.size → later[address]? = earlier[address]?

namespace Extends

variable {earlier middle later : Code}

theorem refl (code : Code) : Extends code code :=
  ⟨Nat.le_refl _, fun _ _ => rfl⟩

theorem trans (first : Extends earlier middle) (second : Extends middle later) :
    Extends earlier later := by
  refine ⟨Nat.le_trans first.size_le second.size_le, fun address bound => ?_⟩
  rw [second.kept address (Nat.lt_of_lt_of_le bound first.size_le), first.kept address bound]

theorem push (code : Code) (instruction : Instruction) : Extends code (code.push instruction) := by
  refine ⟨by simp, fun address bound => ?_⟩
  rw [Array.getElem?_push, if_neg (Nat.ne_of_lt bound)]

end Extends

/-- A program has the instructions that some code holds from an address on. -/
def Agrees (built : Code) (floor : Nat) (program : Code) : Prop :=
  ∀ address instruction, floor ≤ address → built[address]? = some instruction →
    program[address]? = some instruction

namespace Agrees

variable {built program : Code} {floor : Nat}

theorem mono {higher : Nat} (agrees : Agrees built floor program) (le : floor ≤ higher) :
    Agrees built higher program :=
  fun address instruction bound => agrees address instruction (Nat.le_trans le bound)

theorem of_extends {earlier : Code} (agrees : Agrees built floor program)
    (extended : Extends earlier built) : Agrees earlier floor program := by
  intro address instruction bound found
  obtain ⟨inside, _⟩ := Array.getElem?_eq_some_iff.mp found
  exact agrees address instruction bound (by rw [extended.kept address inside, found])

theorem pushed {code : Code} {instruction : Instruction}
    (agrees : Agrees (code.push instruction) floor program) (le : floor ≤ code.size) :
    program[code.size]? = some instruction :=
  agrees _ _ le Array.getElem?_push_size

end Agrees

/-- What a part does to code: it keeps what is there, and a program with the instructions it adds
leads from the address it gives to the one it is given. -/
structure Emits (part : Nat → Code → Nat × Code) (link : Code → Nat → Nat → Prop) : Prop where
  kept : ∀ next code, Extends code (part next code).2
  leads : ∀ next code program, Agrees (part next code).2 code.size program →
    link program (part next code).1 next

namespace Emits

variable {part otherPart : Nat → Code → Nat × Code} {link otherLink : Code → Nat → Nat → Prop}

theorem nothing : Emits (fun next code => (next, code)) (fun _ entry next => entry = next) :=
  ⟨fun _ code => Extends.refl code, fun _ _ _ _ => rfl⟩

theorem one (instruction : Nat → Instruction) :
    Emits (fun next code => emit code (instruction next))
      (fun program entry next => program[entry]? = some (instruction next)) := by
  refine ⟨fun next code => Extends.push code (instruction next), ?_⟩
  intro next code program agrees
  exact agrees.pushed (Nat.le_refl _)

theorem seq (front : Emits part link) (back : Emits otherPart otherLink) :
    Emits (fun next code => part (otherPart next code).1 (otherPart next code).2)
      (fun program entry next =>
        ∃ between, link program entry between ∧ otherLink program between next) := by
  constructor
  · intro next code
    exact (back.kept next code).trans (front.kept _ _)
  · intro next code program agrees
    refine ⟨(otherPart next code).1, ?_, ?_⟩
    · exact front.leads _ _ _ (agrees.mono (back.kept next code).size_le)
    · exact back.leads next code program (agrees.of_extends (front.kept _ _))

theorem times (emits : Emits part link) (count : Nat) :
    Emits (emitTimes part count) (fun program => Copies (link program) count) := by
  induction count with
  | zero => exact nothing
  | succ count countIH => exact emits.seq countIH

theorem upTo (emits : Emits part link) (greedy : Bool) (count : Nat) :
    Emits (fun out code => emitUpTo part greedy out count code)
      (fun program entry out => Options program (link program) greedy out count entry) := by
  induction count with
  | zero => exact nothing
  | succ count countIH =>
      have both := emits.seq countIH
      constructor
      · intro out code
        exact (both.kept out code).trans (Extends.push _ _)
      · intro out code program agrees
        have unpushed := agrees.of_extends (Extends.push _ _)
        obtain ⟨middle, inner, rest⟩ := both.leads out code program unpushed
        exact ⟨_, middle, agrees.pushed (both.kept out code).size_le, inner, rest⟩

theorem loop (emits : Emits part link) (greedy : Bool) :
    Emits (fun out code => emitLoop part greedy out code)
      (fun program entry out => ∃ head, program[head]? = some (loopSplit greedy entry out) ∧
        link program entry head) := by
  constructor
  · intro out code
    have inner := emits.kept code.size (code.push (.split out out))
    refine ⟨?_, fun address bound => ?_⟩
    · have grown := inner.size_le
      simp only [emitLoop, emit, Array.size_setIfInBounds, Array.size_push] at grown ⊢
      omega
    · simp only [emitLoop, emit]
      rw [Array.getElem?_setIfInBounds_ne (Nat.ne_of_gt bound),
        inner.kept address (by simp; omega), Array.getElem?_push, if_neg (Nat.ne_of_lt bound)]
  · intro out code program agrees
    have inner := emits.kept code.size (code.push (.split out out))
    have headInside : code.size < (part code.size (code.push (.split out out))).2.size := by
      have grown := inner.size_le
      simp only [Array.size_push] at grown
      omega
    simp only [emitLoop, emit] at agrees ⊢
    refine ⟨code.size, ?_, ?_⟩
    · refine agrees code.size _ (Nat.le_refl _) ?_
      rw [Array.getElem?_setIfInBounds_self_of_lt headInside]
    · -- The head is written twice, so the program has what the part added only behind it.
      refine emits.leads _ _ _ fun address instruction bound found => ?_
      rw [Array.size_push] at bound
      refine agrees address instruction (by omega) ?_
      rw [Array.getElem?_setIfInBounds_ne (by omega), found]

end Emits

theorem emits_compile (expr : Expr) :
    Emits (compile expr) (fun program => Leads program expr) := by
  induction expr with
  | empty => exact Emits.nothing
  | set chars => exact Emits.one (.set chars)
  | look condition => exact Emits.one (.look condition)
  | seq first second firstIH secondIH => exact firstIH.seq secondIH
  | alt first second firstIH secondIH =>
      constructor
      · intro next code
        exact ((secondIH.kept next code).trans (firstIH.kept next _)).trans (Extends.push _ _)
      · intro next code program agrees
        have right := secondIH.kept next code
        have left := firstIH.kept next (compile second next code).2
        have unpushed := agrees.of_extends (Extends.push _ _)
        refine ⟨_, _, agrees.pushed (right.trans left).size_le,
          firstIH.leads _ _ _ (unpushed.mono right.size_le), ?_⟩
        exact secondIH.leads next code program (unpushed.of_extends left)
  | group index inner innerIH =>
      have opening := Emits.one (.save (2 * index))
      have closing := Emits.one (.save (2 * index + 1))
      have whole := opening.seq (innerIH.seq closing)
      refine ⟨whole.kept, ?_⟩
      intro next code program agrees
      obtain ⟨opened, opens, closed, body, closes⟩ := whole.leads next code program agrees
      exact ⟨opened, closed, opens, body, closes⟩
  | repeated least most greedy inner innerIH =>
      cases most with
      | some most => exact (innerIH.times least).seq (innerIH.upTo greedy (most - least))
      | none =>
          have loop := innerIH.loop greedy
          cases least with
          | zero =>
              refine ⟨fun next code => (loop.kept next code).trans (Extends.push _ _), ?_⟩
              intro next code program agrees
              obtain ⟨head, split, again⟩ :=
                loop.leads next code program (agrees.of_extends (Extends.push _ _))
              exact ⟨head, _, split, again, agrees.pushed (loop.kept next code).size_le⟩
          | succ least =>
              have whole := (innerIH.times least).seq loop
              refine ⟨whole.kept, ?_⟩
              intro next code program agrees
              obtain ⟨again, copies, head, split, body⟩ := whole.leads next code program agrees
              exact ⟨head, again, split, body, copies⟩

/-- No instruction notes where the match itself begins or ends. -/
def NotesGroups (code : Code) : Prop :=
  ∀ address slot next : Nat, code[address]? = some (.save slot next) → 2 ≤ slot

/-- The groups of an expression are numbered from one on. -/
def Expr.NumbersGroups : Expr → Prop
  | .empty | .set _ | .look _ => True
  | .seq first second | .alt first second => first.NumbersGroups ∧ second.NumbersGroups
  | .repeated _ _ _ inner => inner.NumbersGroups
  | .group index inner => 1 ≤ index ∧ inner.NumbersGroups

namespace NotesGroups

variable {code : Code}

theorem push (notes : NotesGroups code) {instruction : Instruction}
    (allowed : ∀ slot next, instruction = .save slot next → 2 ≤ slot) :
    NotesGroups (code.push instruction) := by
  intro address slot next found
  rw [Array.getElem?_push] at found
  split at found
  · exact allowed slot next (Option.some.inj found)
  · exact notes address slot next found

theorem setIfInBounds (notes : NotesGroups code) (head : Nat) {instruction : Instruction}
    (allowed : ∀ slot next, instruction = .save slot next → 2 ≤ slot) :
    NotesGroups (code.setIfInBounds head instruction) := by
  intro address slot next found
  rw [Array.getElem?_setIfInBounds] at found
  split at found
  · split at found
    · exact allowed slot next (Option.some.inj found)
    · contradiction
  · exact notes address slot next found

end NotesGroups

theorem loopSplit_ne_save (greedy : Bool) (again out slot next : Nat) :
    loopSplit greedy again out ≠ .save slot next := by
  cases greedy <;> simp [loopSplit]

section Parts

variable {part : Nat → Code → Nat × Code}
  (keeps : ∀ next code, NotesGroups code → NotesGroups (part next code).2)

include keeps

theorem notesGroups_times (count next : Nat) {code : Code} (notes : NotesGroups code) :
    NotesGroups (emitTimes part count next code).2 := by
  induction count with
  | zero => exact notes
  | succ count countIH => exact keeps _ _ countIH

theorem notesGroups_upTo (greedy : Bool) (out count : Nat) {code : Code}
    (notes : NotesGroups code) : NotesGroups (emitUpTo part greedy out count code).2 := by
  induction count with
  | zero => exact notes
  | succ count countIH =>
      refine NotesGroups.push (keeps _ _ countIH) fun slot next isSave => ?_
      exact absurd isSave (loopSplit_ne_save _ _ _ _ _)

theorem notesGroups_loop (greedy : Bool) (out : Nat) {code : Code} (notes : NotesGroups code) :
    NotesGroups (emitLoop part greedy out code).2 := by
  have headed : NotesGroups (code.push (.split out out)) := notes.push (by simp)
  refine (keeps _ _ headed).setIfInBounds _ fun slot next isSave => ?_
  exact absurd isSave (loopSplit_ne_save _ _ _ _ _)

end Parts

theorem notesGroups_compile {expr : Expr} (numbers : expr.NumbersGroups) (next : Nat) {code : Code}
    (notes : NotesGroups code) : NotesGroups (compile expr next code).2 := by
  induction expr generalizing next code with
  | empty => exact notes
  | set => exact notes.push (by simp)
  | look => exact notes.push (by simp)
  | seq first second firstIH secondIH => exact firstIH numbers.1 _ (secondIH numbers.2 _ notes)
  | alt first second firstIH secondIH =>
      exact (firstIH numbers.1 _ (secondIH numbers.2 _ notes)).push (by simp)
  | group index inner innerIH =>
      have closing : NotesGroups (code.push (.save (2 * index + 1) next)) := by
        refine notes.push fun slot after isSave => ?_
        cases isSave
        have positive := numbers.1
        omega
      refine (innerIH numbers.2 _ closing).push fun slot after isSave => ?_
      cases isSave
      have positive := numbers.1
      omega
  | repeated least most greedy inner innerIH =>
      have keeps : ∀ next code, NotesGroups code → NotesGroups (compile inner next code).2 :=
        fun next code notes => innerIH numbers next notes
      cases most with
      | some most => exact notesGroups_times keeps _ _ (notesGroups_upTo keeps _ _ _ notes)
      | none =>
          have loop := notesGroups_loop keeps greedy next notes
          cases least with
          | zero =>
              refine loop.push fun slot after isSave => ?_
              exact absurd isSave (loopSplit_ne_save _ _ _ _ _)
          | succ least => exact notesGroups_times keeps _ _ loop

theorem notesGroups_ofExpr {expr : Expr} (numbers : expr.NumbersGroups) :
    NotesGroups (Program.ofExpr expr).code := by
  refine notesGroups_compile numbers 0 fun address slot next found => ?_
  cases address <;> simp at found

end Stencil.Regex
