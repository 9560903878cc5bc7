import Mathlib.Data.List.TakeWhile

namespace Stencil.Text

/-! Longest runs of characters of one kind.

A pass over a text that collects the characters of a run until another character or the end comes
treats each longest run by itself, and copies what stands between the runs (`eq_onRuns`).
-/

variable {test : Char → Bool} {f g : List Char → List Char}

/-- Applies a function to each longest run of characters that pass a test. -/
def onRuns (test : Char → Bool) (f : List Char → List Char) : List Char → List Char
  | [] => []
  | c :: rest =>
      if test c then f (c :: rest.takeWhile test) ++ onRuns test f (rest.dropWhile test)
      else c :: onRuns test f rest
termination_by text => text.length
decreasing_by
  · exact Nat.lt_succ_of_le (List.dropWhile_sublist test).length_le
  · exact Nat.lt_succ_self _

def runs (test : Char → Bool) : List Char → List (List Char)
  | [] => []
  | c :: rest =>
      if test c then (c :: rest.takeWhile test) :: runs test (rest.dropWhile test)
      else runs test rest
termination_by text => text.length
decreasing_by
  · exact Nat.lt_succ_of_le (List.dropWhile_sublist test).length_le
  · exact Nat.lt_succ_self _

theorem onRuns_nil : onRuns test f [] = [] := by
  rw [onRuns]

theorem onRuns_of_not {c : Char} (outside : test c = false) (rest : List Char) :
    onRuns test f (c :: rest) = c :: onRuns test f rest := by
  rw [onRuns, outside]
  rfl

/-- A run ends where the text does or where a character of another kind stands. -/
def Stops (test : Char → Bool) (rest : List Char) : Prop :=
  ∀ c ∈ rest.head?, test c = false

theorem stops_nil : Stops test [] := by
  intro c none
  cases none

theorem stops_cons {c : Char} {rest : List Char} : Stops test (c :: rest) ↔ test c = false := by
  simp [Stops]

theorem stops_dropWhile (test : Char → Bool) (text : List Char) :
    Stops test (text.dropWhile test) := by
  intro c first
  have kept := List.head?_dropWhile_not test text
  rw [Option.mem_def.mp first] at kept
  simpa using kept

theorem takeWhile_append_stops {run rest : List Char} (all : ∀ c ∈ run, test c = true)
    (stops : Stops test rest) : (run ++ rest).takeWhile test = run := by
  rw [List.takeWhile_append_of_pos all]
  cases rest with
  | nil => exact List.append_nil run
  | cons c rest => rw [List.takeWhile_cons_of_neg (by simp [stops_cons.mp stops]), List.append_nil]

theorem dropWhile_append_stops {run rest : List Char} (all : ∀ c ∈ run, test c = true)
    (stops : Stops test rest) : (run ++ rest).dropWhile test = rest := by
  rw [List.dropWhile_append_of_pos all]
  cases rest with
  | nil => rfl
  | cons c rest => rw [List.dropWhile_cons_of_neg (by simp [stops_cons.mp stops])]

theorem onRuns_append (empty : f [] = []) {run rest : List Char}
    (all : ∀ c ∈ run, test c = true) (stops : Stops test rest) :
    onRuns test f (run ++ rest) = f run ++ onRuns test f rest := by
  cases run with
  | nil => rw [empty, List.nil_append, List.nil_append]
  | cons c run =>
      obtain ⟨first, others⟩ := List.forall_mem_cons.mp all
      rw [List.cons_append, onRuns, if_pos first, takeWhile_append_stops others stops,
        dropWhile_append_stops others stops]

/-- What a pass makes of a text if it holds back the run that it is in. -/
theorem eq_onRuns {pass : List Char → List Char → List Char} (empty : f [] = [])
    (atEnd : ∀ pending, pass pending [] = f pending)
    (inside : ∀ pending c rest, test c = true →
      pass pending (c :: rest) = pass (pending ++ [c]) rest)
    (outside : ∀ pending c rest, test c = false →
      pass pending (c :: rest) = f pending ++ c :: pass [] rest)
    {pending : List Char} (held : ∀ c ∈ pending, test c = true) (text : List Char) :
    pass pending text = onRuns test f (pending ++ text) := by
  induction text generalizing pending with
  | nil => rw [atEnd, onRuns_append empty held stops_nil, onRuns_nil, List.append_nil]
  | cons c rest restIH =>
      cases kind : test c with
      | true =>
          have longer : ∀ other ∈ pending ++ [c], test other = true :=
            List.forall_mem_append.mpr ⟨held, List.forall_mem_singleton.mpr kind⟩
          rw [inside pending c rest kind, restIH longer, List.append_assoc, List.singleton_append]
      | false =>
          have fresh : ∀ other ∈ ([] : List Char), test other = true := by simp
          rw [outside pending c rest kind, restIH fresh, List.nil_append,
            onRuns_append empty held (stops_cons.mpr kind), onRuns_of_not kind]

theorem test_of_mem_run {c : Char} (inside : test c = true) (rest : List Char) :
    ∀ other ∈ c :: rest.takeWhile test, test other = true :=
  List.forall_mem_cons.mpr ⟨inside, fun _ taken => List.mem_takeWhile_imp taken⟩

theorem test_of_mem_runs {run text : List Char} (member : run ∈ runs test text) :
    ∀ c ∈ run, test c = true := by
  fun_induction runs test text with
  | case1 => contradiction
  | case2 c rest inside restIH =>
      rcases List.mem_cons.mp member with rfl | later
      · exact test_of_mem_run inside rest
      · exact restIH later
  | case3 c rest _ restIH => exact restIH member

theorem isInfix_of_mem_runs {run text : List Char} (member : run ∈ runs test text) :
    run <:+: text := by
  fun_induction runs test text with
  | case1 => contradiction
  | case2 c rest inside restIH =>
      rcases List.mem_cons.mp member with rfl | later
      · have front : c :: rest.takeWhile test <+: c :: rest :=
          List.cons_prefix_cons.mpr ⟨rfl, List.takeWhile_prefix test⟩
        exact front.isInfix
      · have back : rest.dropWhile test <:+ c :: rest :=
          (List.dropWhile_suffix test).trans (List.suffix_cons c rest)
        exact (restIH later).trans back.isInfix
  | case3 c rest _ restIH => exact (restIH member).trans (List.suffix_cons c rest).isInfix

/-- A part of the text in which all characters pass the test lies within one run. -/
theorem exists_run_of_isInfix {part text : List Char} (nonempty : part ≠ [])
    (all : ∀ c ∈ part, test c = true) (isPart : part <:+: text) :
    ∃ run ∈ runs test text, part.length ≤ run.length := by
  fun_induction runs test text with
  | case1 => exact absurd (List.infix_nil.mp isPart) nonempty
  | case2 c rest inside restIH =>
      obtain ⟨before, after, shape⟩ := isPart
      have stops := stops_dropWhile test rest
      rw [← List.takeWhile_append_dropWhile (p := test) (l := rest), ← List.cons_append,
        List.append_assoc] at shape
      rcases List.append_eq_append_iff.mp shape with ⟨gap, whole, left⟩ | ⟨gap, whole, left⟩
      · -- The part begins in the run, so it cannot go on behind the run.
        have short : part.length ≤ gap.length := by
          rcases List.append_eq_append_iff.mp left with ⟨_, isGap, _⟩ | ⟨beyond, isPart, behind⟩
          · rw [isGap, List.length_append]
            omega
          · cases beyond with
            | nil => rw [isPart, List.append_nil]
            | cons d beyond =>
                rw [behind] at stops
                have outside := stops_cons.mp stops
                rw [all d (by rw [isPart]; simp)] at outside
                contradiction
        exact ⟨_, List.mem_cons_self, by rw [whole, List.length_append]; omega⟩
      · obtain ⟨run, listed, within⟩ := restIH ⟨gap, after, by rw [left, List.append_assoc]⟩
        exact ⟨run, List.mem_cons_of_mem _ listed, within⟩
  | case3 c rest outside restIH =>
      rcases List.infix_cons_iff.mp isPart with front | later
      · obtain ⟨d, part, rfl⟩ := List.exists_cons_of_ne_nil nonempty
        obtain ⟨rfl, _⟩ := List.cons_prefix_cons.mp front
        exact absurd (all d List.mem_cons_self) outside
      · exact restIH later

theorem stops_onRuns {text : List Char} (stops : Stops test text) :
    Stops test (onRuns test f text) := by
  cases text with
  | nil => rwa [onRuns_nil]
  | cons c rest =>
      have outside := stops_cons.mp stops
      rw [onRuns_of_not outside]
      exact stops_cons.mpr outside

theorem onRuns_eq_self {text : List Char} (kept : ∀ run ∈ runs test text, f run = run) :
    onRuns test f text = text := by
  fun_induction runs test text with
  | case1 => exact onRuns_nil
  | case2 c rest inside restIH =>
      obtain ⟨here, later⟩ := List.forall_mem_cons.mp kept
      rw [onRuns, if_pos inside, here, restIH later, List.cons_append,
        List.takeWhile_append_dropWhile]
  | case3 c rest outside restIH =>
      rw [onRuns_of_not (Bool.not_eq_true _ ▸ outside), restIH kept]

theorem onRuns_congr (same : ∀ run, (∀ c ∈ run, test c = true) → f run = g run)
    (text : List Char) : onRuns test f text = onRuns test g text := by
  fun_induction onRuns test f text with
  | case1 => rw [onRuns_nil]
  | case2 c rest inside restIH =>
      have all := test_of_mem_run inside rest
      rw [same _ all, restIH, onRuns, if_pos inside]
  | case3 c rest outside restIH =>
      rw [onRuns_of_not (Bool.not_eq_true _ ▸ outside), restIH]

theorem runs_append {run rest : List Char} (nonempty : run ≠ [])
    (all : ∀ c ∈ run, test c = true) (stops : Stops test rest) :
    runs test (run ++ rest) = run :: runs test rest := by
  cases run with
  | nil => contradiction
  | cons c run =>
      obtain ⟨first, others⟩ := List.forall_mem_cons.mp all
      rw [List.cons_append, runs, if_pos first, takeWhile_append_stops others stops,
        dropWhile_append_stops others stops]

theorem runs_onRuns
    (nonempty : ∀ run, run ≠ [] → f run ≠ [])
    (fRuns : ∀ run, (∀ c ∈ run, test c = true) → ∀ c ∈ f run, test c = true)
    (text : List Char) : runs test (onRuns test f text) = (runs test text).map f := by
  fun_induction runs test text with
  | case1 => rw [onRuns_nil, runs, List.map_nil]
  | case2 c rest inside restIH =>
      have all := test_of_mem_run inside rest
      rw [onRuns, if_pos inside, runs_append (nonempty _ (List.cons_ne_nil _ _)) (fRuns _ all)
        (stops_onRuns (stops_dropWhile test rest)), restIH, List.map_cons]
  | case3 c rest outside restIH =>
      rw [onRuns_of_not (Bool.not_eq_true _ ▸ outside), runs, if_neg outside, restIH]

theorem mem_onRuns {text : List Char} {c : Char} (member : c ∈ onRuns test f text) :
    c ∈ text ∨ ∃ run ∈ runs test text, c ∈ f run := by
  fun_induction onRuns test f text with
  | case1 => contradiction
  | case2 first rest inside restIH =>
      rw [runs, if_pos inside]
      rcases List.mem_append.mp member with here | later
      · exact .inr ⟨_, List.mem_cons_self, here⟩
      · rcases restIH later with kept | ⟨run, listed, taken⟩
        · exact .inl (List.mem_cons_of_mem _ ((List.dropWhile_sublist test).subset kept))
        · exact .inr ⟨run, List.mem_cons_of_mem _ listed, taken⟩
  | case3 first rest outside restIH =>
      rw [runs, if_neg outside]
      rcases List.mem_cons.mp member with rfl | later
      · exact .inl List.mem_cons_self
      · exact (restIH later).imp_left (List.mem_cons_of_mem _)

/-- Two functions that leave runs runs make the same of a text just if they make the same of each
of its runs. -/
theorem onRuns_eq_onRuns_iff
    (fRuns : ∀ run, (∀ c ∈ run, test c = true) → ∀ c ∈ f run, test c = true)
    (gRuns : ∀ run, (∀ c ∈ run, test c = true) → ∀ c ∈ g run, test c = true)
    (text : List Char) :
    onRuns test f text = onRuns test g text ↔ ∀ run ∈ runs test text, f run = g run := by
  fun_induction runs test text with
  | case1 => simp [onRuns_nil]
  | case2 c rest inside restIH =>
      have all := test_of_mem_run inside rest
      have fStops := stops_onRuns (f := f) (stops_dropWhile test rest)
      have gStops := stops_onRuns (f := g) (stops_dropWhile test rest)
      rw [List.forall_mem_cons, ← restIH, onRuns, onRuns, if_pos inside, if_pos inside]
      constructor
      · intro same
        have front := congrArg (List.takeWhile test) same
        have back := congrArg (List.dropWhile test) same
        rw [takeWhile_append_stops (fRuns _ all) fStops,
          takeWhile_append_stops (gRuns _ all) gStops] at front
        rw [dropWhile_append_stops (fRuns _ all) fStops,
          dropWhile_append_stops (gRuns _ all) gStops] at back
        exact ⟨front, back⟩
      · rintro ⟨front, back⟩
        rw [front, back]
  | case3 c rest outside restIH =>
      rw [Bool.not_eq_true] at outside
      rw [onRuns_of_not outside, onRuns_of_not outside, List.cons_inj_right, restIH]

end Stencil.Text
