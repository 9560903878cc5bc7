import Stencil.Proofs.Regex.Compiling
import Stencil.Proofs.Regex.Denotation

namespace Stencil.Regex

/-! The meaning of compiled code.

Where code leads from one address to another one by an expression, its ways between them are the
matches of the expression.  So the program of an expression does what the expression says
(`runs_ofExpr_iff`).
-/

/-- What code between two addresses means: the ways from the first one go through a match to the
second one, and every match is a part of a way. -/
structure Means (code : Code) (link : Nat → Nat → Prop) (takes : Cursor → Cursor → Prop) :
    Prop where
  sound : ∀ {entry next steps : Nat} {start stop : Cursor}, link entry next →
    RunsIn code steps entry start stop →
    ∃ middle left, left ≤ steps ∧ takes start middle ∧ RunsIn code left next middle stop
  complete : ∀ {entry next : Nat} {start middle stop : Cursor}, link entry next →
    takes start middle → Runs code next middle stop → Runs code entry start stop

namespace Means

variable {code : Code} {link otherLink : Nat → Nat → Prop}
  {takes otherTakes : Cursor → Cursor → Prop}

theorem of_iff (means : Means code link takes)
    (sameLink : ∀ entry next, otherLink entry next ↔ link entry next)
    (sameTakes : ∀ start stop, otherTakes start stop ↔ takes start stop) :
    Means code otherLink otherTakes := by
  constructor
  · intro entry next steps start stop linked run
    obtain ⟨middle, left, shorter, taken, rest⟩ := means.sound ((sameLink _ _).mp linked) run
    exact ⟨middle, left, shorter, (sameTakes _ _).mpr taken, rest⟩
  · intro entry next start middle stop linked taken run
    exact means.complete ((sameLink _ _).mp linked) ((sameTakes _ _).mp taken) run

theorem nothing : Means code Eq Eq := by
  constructor
  · intro entry next steps start stop same run
    subst same
    exact ⟨start, steps, Nat.le_refl _, rfl, run⟩
  · intro entry next start middle stop same taken run
    subst same taken
    exact run

theorem one {instruction : Nat → Instruction} (notFound : ∀ next, instruction next ≠ .found)
    (steps : ∀ {address next after : Nat} {start stop : Cursor},
      code[address]? = some (instruction after) →
      (Steps code address start next stop ↔ next = after ∧ takes start stop)) :
    Means code (fun entry next => code[entry]? = some (instruction next)) takes := by
  constructor
  · intro entry next count start stop found run
    have unfinished : code[entry]? ≠ some .found := by simp [found, notFound]
    obtain ⟨left, after, middle, rfl, step, rest⟩ := run.of_not_found unfinished
    obtain ⟨rfl, taken⟩ := (steps found).mp step
    exact ⟨middle, left, Nat.le_succ _, taken, rest⟩
  · intro entry next start middle stop found taken run
    exact Runs.step ((steps found).mpr ⟨rfl, taken⟩) run

theorem seq (front : Means code link takes) (back : Means code otherLink otherTakes) :
    Means code (fun entry next => ∃ between, link entry between ∧ otherLink between next)
      (fun start stop => ∃ middle, takes start middle ∧ otherTakes middle stop) := by
  constructor
  · intro entry next steps start stop linked run
    obtain ⟨between, head, tail⟩ := linked
    obtain ⟨middle, left, shorter, taken, rest⟩ := front.sound head run
    obtain ⟨last, fewer, evenShorter, others, final⟩ := back.sound tail rest
    exact ⟨last, fewer, Nat.le_trans evenShorter shorter, ⟨middle, taken, others⟩, final⟩
  · intro entry next start last stop linked both run
    obtain ⟨between, head, tail⟩ := linked
    obtain ⟨middle, taken, others⟩ := both
    exact front.complete head taken (back.complete tail others run)

theorem alt (first : Means code link takes) (second : Means code otherLink otherTakes) :
    Means code
      (fun entry next => ∃ left right, code[entry]? = some (.split left right) ∧
        link left next ∧ otherLink right next)
      (fun start stop => takes start stop ∨ otherTakes start stop) := by
  constructor
  · intro entry next steps start stop linked run
    obtain ⟨left, right, split, leftLink, rightLink⟩ := linked
    obtain ⟨fewer, after, middle, rfl, step, rest⟩ := run.of_not_found (by simp [split])
    obtain ⟨way, rfl⟩ := (Steps.split_iff split).mp step
    cases way with
    | inl isLeft =>
        subst isLeft
        obtain ⟨behind, least, shorter, taken, final⟩ := first.sound leftLink rest
        exact ⟨behind, least, by omega, .inl taken, final⟩
    | inr isRight =>
        subst isRight
        obtain ⟨behind, least, shorter, taken, final⟩ := second.sound rightLink rest
        exact ⟨behind, least, by omega, .inr taken, final⟩
  · intro entry next start middle stop linked taken run
    obtain ⟨left, right, split, leftLink, rightLink⟩ := linked
    cases taken with
    | inl taken =>
        refine Runs.step ((Steps.split_iff split).mpr ⟨.inl rfl, rfl⟩) ?_
        exact first.complete leftLink taken run
    | inr taken =>
        refine Runs.step ((Steps.split_iff split).mpr ⟨.inr rfl, rfl⟩) ?_
        exact second.complete rightLink taken run

theorem copies (means : Means code link takes) (count : Nat) :
    Means code (Copies link count) (Repeats takes count) := by
  induction count with
  | zero => exact nothing.of_iff (fun _ _ => Iff.rfl) (fun _ _ => Repeats.zero_iff)
  | succ count countIH =>
      exact (means.seq countIH).of_iff (fun _ _ => Iff.rfl) (fun _ _ => Repeats.succ_iff)

theorem options (means : Means code link takes) (greedy : Bool) (count : Nat) :
    Means code (fun entry out => Options code link greedy out count entry)
      (fun start stop => ∃ times, times ≤ count ∧ Repeats takes times start stop) := by
  induction count with
  | zero =>
      refine nothing.of_iff (fun _ _ => Iff.rfl) fun start stop => ?_
      simp [Repeats.zero_iff]
  | succ count countIH =>
      constructor
      · intro entry out steps start stop options run
        obtain ⟨inner, middle, split, head, tail⟩ := options
        obtain ⟨left, next, behindSplit, rfl, step, rest⟩ :=
          run.of_not_found (loopSplit_not_found split)
        obtain ⟨way, rfl⟩ := (Steps.loop_iff split).mp step
        cases way with
        | inl again =>
            subst again
            obtain ⟨behind, fewer, shorter, taken, others⟩ := means.sound head rest
            obtain ⟨last, least, evenShorter, ⟨times, bound, repeats⟩, final⟩ :=
              countIH.sound tail others
            exact ⟨last, least, by omega, ⟨times + 1, by omega, .succ taken repeats⟩, final⟩
        | inr done =>
            subst done
            exact ⟨_, left, by omega, ⟨0, by omega, .zero⟩, rest⟩
      · intro entry out start last stop options taken run
        obtain ⟨inner, middle, split, head, tail⟩ := options
        obtain ⟨times, bound, repeats⟩ := taken
        cases repeats with
        | zero => exact Runs.step ((Steps.loop_iff split).mpr ⟨.inr rfl, rfl⟩) run
        | succ first others =>
            refine Runs.step ((Steps.loop_iff split).mpr ⟨.inl rfl, rfl⟩) ?_
            exact means.complete head first
              (countIH.complete tail ⟨_, Nat.le_of_succ_le_succ bound, others⟩ run)

/-- The loop is followed for as many steps as the run has, since it comes back to where it was. -/
theorem loop (means : Means code link takes) {greedy : Bool} {head again out : Nat}
    (split : code[head]? = some (loopSplit greedy again out)) (body : link again head) :
    Means code (fun entry next => code[entry]? = some (loopSplit greedy again next) ∧ next = out)
      (fun start stop => ∃ times, Repeats takes times start stop) := by
  constructor
  · intro entry next steps
    induction steps using Nat.strongRecOn generalizing entry with
    | _ steps stepsIH =>
        intro start stop linked run
        obtain ⟨entrySplit, rfl⟩ := linked
        obtain ⟨left, behindSplit, middle, rfl, step, rest⟩ :=
          run.of_not_found (loopSplit_not_found entrySplit)
        obtain ⟨way, rfl⟩ := (Steps.loop_iff entrySplit).mp step
        cases way with
        | inl isAgain =>
            subst isAgain
            obtain ⟨behind, fewer, shorter, taken, others⟩ := means.sound body rest
            -- Behind the body stands the head of the loop again, with fewer steps to go.
            obtain ⟨last, least, evenShorter, ⟨times, repeats⟩, final⟩ :=
              stepsIH fewer (by omega) ⟨split, rfl⟩ others
            exact ⟨last, least, by omega, ⟨times + 1, .succ taken repeats⟩, final⟩
        | inr isOut =>
            subst isOut
            exact ⟨_, left, by omega, ⟨0, .zero⟩, rest⟩
  · intro entry next start last stop linked taken run
    obtain ⟨entrySplit, rfl⟩ := linked
    obtain ⟨times, repeats⟩ := taken
    induction repeats generalizing entry with
    | zero => exact Runs.step ((Steps.loop_iff entrySplit).mpr ⟨.inr rfl, rfl⟩) run
    | succ first others othersIH =>
        refine Runs.step ((Steps.loop_iff entrySplit).mpr ⟨.inl rfl, rfl⟩) ?_
        exact means.complete body first (othersIH run split)

end Means

/-- At most so many more copies behind the required ones. -/
theorem takes_bounded_iff {least most : Nat} {greedy : Bool} {inner : Expr} {start stop : Cursor} :
    (Expr.repeated least (some most) greedy inner).Takes start stop ↔
      ∃ middle, Repeats inner.Takes least start middle ∧
        ∃ times, times ≤ most - least ∧ Repeats inner.Takes times middle stop := by
  constructor
  · intro taken
    obtain ⟨count, enough, bounded, repeats⟩ := taken
    obtain ⟨times, rfl⟩ := Nat.exists_eq_add_of_le enough
    obtain ⟨middle, required, others⟩ := repeats.split
    have bound : least + times ≤ max least most := bounded most rfl
    exact ⟨middle, required, times, by omega, others⟩
  · intro taken
    obtain ⟨middle, required, times, bound, others⟩ := taken
    refine ⟨least + times, Nat.le_add_right _ _, ?_, required.append others⟩
    intro limit isMost
    cases isMost
    omega

theorem takes_unbounded_iff {least : Nat} {greedy : Bool} {inner : Expr} {start stop : Cursor} :
    (Expr.repeated least none greedy inner).Takes start stop ↔
      ∃ count, least ≤ count ∧ Repeats inner.Takes count start stop := by
  simp [Expr.Takes]

theorem means_leads (code : Code) (expr : Expr) : Means code (Leads code expr) expr.Takes := by
  induction expr with
  | empty => exact Means.nothing
  | set chars => exact Means.one (by simp) Steps.set_iff
  | look condition => exact Means.one (by simp) Steps.look_iff
  | seq first second firstIH secondIH => exact firstIH.seq secondIH
  | alt first second firstIH secondIH => exact firstIH.alt secondIH
  | group index inner innerIH =>
      have opening : Means code (fun entry next => code[entry]? = some (.save (2 * index) next))
          (fun start stop => stop = start.note (2 * index)) := Means.one (by simp) Steps.save_iff
      have closing : Means code (fun entry next => code[entry]? = some (.save (2 * index + 1) next))
          (fun start stop => stop = start.note (2 * index + 1)) :=
        Means.one (by simp) Steps.save_iff
      refine (opening.seq (innerIH.seq closing)).of_iff ?_ ?_
      · intro entry next
        simp only [Leads, exists_and_left]
      · intro start stop
        simp only [Expr.Takes, exists_eq_left]
  | repeated least most greedy inner innerIH =>
      cases most with
      | some most =>
          have copies := innerIH.copies least
          have options := innerIH.options greedy (most - least)
          exact (copies.seq options).of_iff (fun _ _ => Iff.rfl) (fun _ _ => takes_bounded_iff)
      | none =>
          cases least with
          | zero =>
              constructor
              · intro entry next steps start stop linked run
                obtain ⟨head, again, split, body, entrySplit⟩ := linked
                obtain ⟨last, left, shorter, ⟨times, taken⟩, rest⟩ :=
                  (innerIH.loop split body).sound ⟨entrySplit, rfl⟩ run
                exact ⟨last, left, shorter,
                  takes_unbounded_iff.mpr ⟨times, Nat.zero_le _, taken⟩, rest⟩
              · intro entry next start last stop linked taken run
                obtain ⟨head, again, split, body, entrySplit⟩ := linked
                obtain ⟨times, _, repeats⟩ := takes_unbounded_iff.mp taken
                exact (innerIH.loop split body).complete ⟨entrySplit, rfl⟩ ⟨times, repeats⟩ run
          | succ least =>
              -- The last required copy is the body of the loop.
              have copies := innerIH.copies least
              constructor
              · intro entry next steps start stop linked run
                obtain ⟨head, again, split, body, entryCopies⟩ := linked
                obtain ⟨last, left, shorter, ⟨middle, required, behind, taken, times, repeats⟩,
                    rest⟩ :=
                  (copies.seq (innerIH.seq (innerIH.loop split body))).sound
                    ⟨again, entryCopies, head, body, split, rfl⟩ run
                refine ⟨last, left, shorter, takes_unbounded_iff.mpr ?_, rest⟩
                exact ⟨least + (times + 1), by omega, required.append (.succ taken repeats)⟩
              · intro entry next start last stop linked taken run
                obtain ⟨head, again, split, body, entryCopies⟩ := linked
                obtain ⟨count, enough, repeats⟩ := takes_unbounded_iff.mp taken
                obtain ⟨times, rfl⟩ : ∃ times, count = least + (times + 1) :=
                  ⟨count - least - 1, by omega⟩
                obtain ⟨middle, required, others⟩ := repeats.split
                cases others with
                | succ first others =>
                    exact (copies.seq (innerIH.seq (innerIH.loop split body))).complete
                      ⟨again, entryCopies, head, body, split, rfl⟩
                      ⟨middle, required, _, first, times, others⟩ run

/-- The program of an expression runs from one cursor to another one if and only if the expression
matches what lies between them. -/
theorem runs_ofExpr_iff {expr : Expr} {start stop : Cursor} :
    Runs (Program.ofExpr expr).code (Program.ofExpr expr).start start stop ↔
      expr.Takes start stop := by
  have leads : Leads (Program.ofExpr expr).code expr (Program.ofExpr expr).start 0 :=
    (emits_compile expr).leads 0 #[.found] _ fun _ _ _ found => found
  have found : (Program.ofExpr expr).code[0]? = some .found :=
    ((emits_compile expr).kept 0 #[.found]).kept 0 (by simp)
  have means := means_leads (Program.ofExpr expr).code expr
  constructor
  · intro run
    obtain ⟨steps, run⟩ := run
    obtain ⟨middle, left, _, taken, rest⟩ := means.sound leads run
    cases rest with
    | found => exact taken
    | step step _ => exact absurd found step.not_found
  · intro taken
    exact means.complete leads taken ⟨0, .found found⟩

end Stencil.Regex
