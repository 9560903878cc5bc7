import Stencil.Proofs.Text.Runs
import Stencil.Text.LineBreaks

namespace Stencil.Text

/-! What limiting blank lines does to runs of line breaks.

A run with more breaks than the limit keeps its first breaks.  A run with fewer breaks but more
characters than the limit loses its last character, since two characters that are one break are then
counted as two.
-/

/-- The line breaks of a run of break characters, read from the left. -/
def lineBreaks : List Char → List (List Char)
  | [] => []
  | '\r' :: '\n' :: rest => ['\r', '\n'] :: lineBreaks rest
  | '\n' :: '\r' :: rest => ['\n', '\r'] :: lineBreaks rest
  | c :: rest => [c] :: lineBreaks rest

def breakFollows (rest : List Char) : Bool :=
  (rest.dropWhile isLineSpace).head?.any isBreakChar

/-- The text without the tabs and spaces directly before its line breaks. -/
def withoutLineEnds : List Char → List Char
  | [] => []
  | c :: rest =>
      if isLineSpace c && breakFollows rest then withoutLineEnds rest
      else c :: withoutLineEnds rest

/-- The first breaks of a run, as many as the limit allows. -/
def keptBreaks (limit : Nat) (run : List Char) : List Char :=
  if limit < (lineBreaks run).length then ((lineBreaks run).take limit).flatten else run

/-- The same, but a run that only has more characters than the limit loses its last one. -/
def cutBreaks (limit : Nat) (run : List Char) : List Char :=
  if limit < (lineBreaks run).length then ((lineBreaks run).take limit).flatten
  else if limit < run.length then run.dropLast
  else run

/-- The text with every run of line breaks cut to whole breaks. -/
def keepBreaks (limit : Nat) (text : List Char) : List Char :=
  onRuns isBreakChar (keptBreaks limit) (withoutLineEnds text)

section Breaks

variable {run : List Char}

theorem isBreakChar_iff {c : Char} : isBreakChar c = true ↔ c = '\r' ∨ c = '\n' := by
  simp [isBreakChar]

theorem lineBreaks_pair {c next : Char} (cBreaks : isBreakChar c = true)
    (nextBreaks : isBreakChar next = true) (different : c ≠ next) (rest : List Char) :
    lineBreaks (c :: next :: rest) = [c, next] :: lineBreaks rest := by
  rcases isBreakChar_iff.mp cBreaks with rfl | rfl
  · rcases isBreakChar_iff.mp nextBreaks with rfl | rfl
    · contradiction
    · rfl
  · rcases isBreakChar_iff.mp nextBreaks with rfl | rfl
    · rfl
    · contradiction

theorem lineBreaks_twice (c : Char) (rest : List Char) :
    lineBreaks (c :: c :: rest) = [c] :: lineBreaks (c :: rest) := by
  rw [lineBreaks]
  · intro others cIs shape
    simp_all
  · intro others cIs shape
    simp_all

theorem length_lineBreaks_le (run : List Char) : (lineBreaks run).length ≤ run.length := by
  fun_induction lineBreaks run with
  | case1 => exact Nat.le_refl 0
  | case2 rest restIH => simp only [List.length_cons]; omega
  | case3 rest restIH => simp only [List.length_cons]; omega
  | case4 c rest _ _ restIH => simp only [List.length_cons]; omega

theorem flatten_lineBreaks (run : List Char) : (lineBreaks run).flatten = run := by
  fun_induction lineBreaks run with
  | case1 => rfl
  | case2 rest restIH => rw [List.flatten_cons, restIH]; rfl
  | case3 rest restIH => rw [List.flatten_cons, restIH]; rfl
  | case4 c rest _ _ restIH => rw [List.flatten_cons, restIH]; rfl

/-- Where one character only is to remain, every break is a single character. -/
theorem firstBreaks_of_length {count : Nat} (single : run.length = count + 1) :
    firstBreaks count run = run.dropLast := by
  induction count generalizing run with
  | zero =>
      obtain ⟨c, rfl⟩ := List.length_eq_one_iff.mp single
      rfl
  | succ count countIH =>
      match run, single with
      | c :: next :: rest, single =>
          simp only [List.length_cons] at single
          have noRoom : ¬ (c ≠ next ∧ count < rest.length) := by omega
          rw [firstBreaks, if_neg noRoom, countIH (by simpa using single)]
          rfl

theorem firstBreaks_eq {count : Nat} (all : ∀ c ∈ run, isBreakChar c = true)
    (longer : count < run.length) :
    firstBreaks count run =
      if count < (lineBreaks run).length then ((lineBreaks run).take count).flatten
      else run.dropLast := by
  induction count generalizing run with
  | zero =>
      have some : 0 < (lineBreaks run).length := by
        rw [List.length_pos_iff]
        intro none
        have whole := flatten_lineBreaks run
        rw [none, List.flatten_nil] at whole
        rw [← whole] at longer
        contradiction
      rw [if_pos some, firstBreaks]
      rfl
  | succ count countIH =>
      match run, all, longer with
      | c :: next :: rest, all, longer =>
          obtain ⟨cBreaks, laterBreak⟩ := List.forall_mem_cons.mp all
          obtain ⟨nextBreaks, restBreaks⟩ := List.forall_mem_cons.mp laterBreak
          simp only [List.length_cons] at longer
          by_cases same : c = next
          · subst same
            have left : count < (c :: rest).length := by
              simp only [List.length_cons]
              omega
            rw [firstBreaks, if_neg (by simp), countIH laterBreak left, lineBreaks_twice]
            simp only [List.length_cons, Nat.add_lt_add_iff_right]
            split <;> rfl
          · rw [lineBreaks_pair cBreaks nextBreaks same]
            by_cases room : count < rest.length
            · rw [firstBreaks, if_pos ⟨same, room⟩, countIH restBreaks room]
              simp only [List.length_cons, Nat.add_lt_add_iff_right]
              have some : rest ≠ [] := List.ne_nil_of_length_pos (Nat.zero_lt_of_lt room)
              split
              · rfl
              · rw [List.dropLast_cons_of_ne_nil (List.cons_ne_nil _ _),
                  List.dropLast_cons_of_ne_nil some]
            · -- Every character but the last must be a break by itself now.
              have few := length_lineBreaks_le rest
              have all : ¬ count + 1 < ([c, next] :: lineBreaks rest).length := by
                simp only [List.length_cons]
                omega
              have single : (c :: next :: rest).length = count + 1 + 1 := by
                simp only [List.length_cons]
                omega
              rw [if_neg all, firstBreaks_of_length single]

theorem limitRun_eq {limit : Nat} (all : ∀ c ∈ run, isBreakChar c = true) :
    limitRun limit run = cutBreaks limit run := by
  have few := length_lineBreaks_le run
  rw [limitRun, cutBreaks]
  by_cases longer : limit < run.length
  · rw [if_pos longer, firstBreaks_eq all longer]
    simp only [if_pos longer]
  · rw [if_neg longer, if_neg (by omega), if_neg longer]

theorem cutBreaks_eq_keptBreaks_iff {limit : Nat} :
    cutBreaks limit run = keptBreaks limit run ↔
      limit < (lineBreaks run).length ∨ run.length ≤ limit := by
  rw [cutBreaks, keptBreaks]
  by_cases many : limit < (lineBreaks run).length
  · rw [if_pos many, if_pos many]
    exact iff_of_true rfl (.inl many)
  · rw [if_neg many, if_neg many]
    by_cases longer : limit < run.length
    · rw [if_pos longer]
      have shorter : run.dropLast ≠ run := by
        intro same
        have lengths := congrArg List.length same
        rw [List.length_dropLast] at lengths
        omega
      exact iff_of_false shorter (by omega)
    · rw [if_neg longer]
      exact iff_of_true rfl (.inr (by omega))

theorem isBreakChar_of_mem_flatten_take {limit : Nat} (all : ∀ c ∈ run, isBreakChar c = true) :
    ∀ c ∈ ((lineBreaks run).take limit).flatten, isBreakChar c = true := by
  intro c member
  refine all c ?_
  rw [← flatten_lineBreaks run]
  obtain ⟨part, inTake, inPart⟩ := List.mem_flatten.mp member
  exact List.mem_flatten.mpr ⟨part, List.mem_of_mem_take inTake, inPart⟩

theorem isBreakChar_of_mem_cutBreaks {limit : Nat} (all : ∀ c ∈ run, isBreakChar c = true) :
    ∀ c ∈ cutBreaks limit run, isBreakChar c = true := by
  rw [cutBreaks]
  split
  · exact isBreakChar_of_mem_flatten_take all
  · split
    · exact fun c member => all c (List.dropLast_subset run member)
    · exact all

theorem isBreakChar_of_mem_keptBreaks {limit : Nat} (all : ∀ c ∈ run, isBreakChar c = true) :
    ∀ c ∈ keptBreaks limit run, isBreakChar c = true := by
  rw [keptBreaks]
  split
  · exact isBreakChar_of_mem_flatten_take all
  · exact all

end Breaks

section LineEnds

theorem breakFollows_space {c : Char} (space : isLineSpace c = true) (rest : List Char) :
    breakFollows (c :: rest) = breakFollows rest := by
  rw [breakFollows, List.dropWhile_cons_of_pos space, breakFollows]

theorem breakFollows_other {c : Char} (notSpace : isLineSpace c = false) (rest : List Char) :
    breakFollows (c :: rest) = isBreakChar c := by
  rw [breakFollows, List.dropWhile_cons_of_neg (by simp [notSpace])]
  rfl

theorem stripLineEndsFrom_eq (pending text : List Char) :
    stripLineEndsFrom pending text =
      (if breakFollows text then [] else pending) ++ withoutLineEnds text := by
  induction text generalizing pending with
  | nil =>
      rw [stripLineEndsFrom, withoutLineEnds, List.append_nil]
      rfl
  | cons c rest restIH =>
      cases space : isLineSpace c with
      | true =>
          rw [stripLineEndsFrom, if_pos space, restIH, breakFollows_space space, withoutLineEnds,
            space, Bool.true_and]
          cases breakFollows rest <;> simp
      | false =>
          have fresh : stripLineEndsFrom [] rest = withoutLineEnds rest := by
            rw [restIH]
            split <;> rfl
          rw [stripLineEndsFrom, if_neg (by simp [space]), breakFollows_other space, fresh,
            withoutLineEnds, space]
          cases isBreakChar c <;> simp

theorem stripLineEnds_eq (text : List Char) : stripLineEnds text = withoutLineEnds text := by
  rw [stripLineEnds, stripLineEndsFrom_eq]
  split <;> rfl

end LineEnds

/-- Limiting works on the runs of breaks that are left without the line ends. -/
theorem limitBreaks_eq (limit : Nat) (text : List Char) :
    limitBreaks limit text = onRuns isBreakChar (cutBreaks limit) (withoutLineEnds text) := by
  have passed : limitBreaksFrom limit [] (withoutLineEnds text) =
      onRuns isBreakChar (limitRun limit) ([] ++ withoutLineEnds text) := by
    refine eq_onRuns ?_ ?_ ?_ ?_ (by simp) _
    · simp [limitRun]
    · exact fun pending => rfl
    · intro pending c rest inside
      rw [limitBreaksFrom, if_pos inside]
    · intro pending c rest outside
      rw [limitBreaksFrom, if_neg (by simp [outside])]
  rw [limitBreaks, stripLineEnds_eq, passed, List.nil_append]
  exact onRuns_congr (fun run all => limitRun_eq all) _

theorem limitBreaks_eq_keepBreaks_iff (limit : Nat) (text : List Char) :
    limitBreaks limit text = keepBreaks limit text ↔
      ∀ run ∈ runs isBreakChar (withoutLineEnds text),
        limit < (lineBreaks run).length ∨ run.length ≤ limit := by
  rw [limitBreaks_eq, keepBreaks, onRuns_eq_onRuns_iff
    (fun _ all => isBreakChar_of_mem_cutBreaks all) (fun _ all => isBreakChar_of_mem_keptBreaks all)]
  exact forall₂_congr fun run member => cutBreaks_eq_keptBreaks_iff

end Stencil.Text
