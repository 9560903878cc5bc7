import Stencil.Proofs.Regex.Closure
import Stencil.Proofs.Regex.Meaning

namespace Stencil.Regex

/-! Searching finds a leftmost match.

What a search finds is a way through its program (`searchFrom_sound`), and it begins no later than
any other way does (`searchFrom_within`); so for the program of an expression it is a leftmost match
(`searchFrom_some`, `searchFrom_none`).  A round of a search is the work at one place of the text;
the threads between two rounds stand in the order in which their matches begin, none of them after
the start of the best match so far (`Underway`).
-/

variable {program : Program} {code : Code} {place : Nat} {before : Option Char} {text : List Char}

namespace Thread

/-- A thread can get from a place to the end of the search with these slots. -/
def Ends (code : Code) (thread : Thread) (place : Nat) (before : Option Char) (rest : List Char)
    (slots : Slots) : Prop :=
  ∃ stop, Runs code thread.address (thread.cursor place before rest) stop ∧
    slots = stop.slots.setIfInBounds 1 (some stop.place)

end Thread

/-- From an address the end of the search can be reached, whatever is noted on the way. -/
def Accepts (code : Code) (address place : Nat) (before : Option Char) (rest : List Char) : Prop :=
  ∃ slots stop, Runs code address ⟨slots, place, before, rest⟩ stop

/-- A thread is another one behind one more character. -/
def Thread.Follows (code : Code) (place : Nat) (before : Option Char) (text : List Char)
    (thread next : Thread) : Prop :=
  ∃ c rest, text = c :: rest ∧ next.slots = thread.slots ∧
    Steps code thread.address (thread.cursor place before text) next.address
      (next.cursor (place + 1) (some c) rest)

theorem Thread.Follows.start_eq {thread next : Thread}
    (follows : thread.Follows code place before text next) : next.start = thread.start := by
  obtain ⟨c, rest, _, same, _⟩ := follows
  rw [Thread.start, same, Thread.start]

theorem mem_advance (place : Nat) (before : Option Char) {settled : List Thread} {next : Thread}
    (member : next ∈ (advance code text.head? settled).1) :
    ∃ thread ∈ settled, thread.Follows code place before text next := by
  fun_induction advance code text.head? settled with
  | case1 => contradiction
  | case2 => contradiction
  | case3 thread others chars address instruction threads ended advanced passes othersIH =>
      rcases List.mem_cons.mp member with rfl | later
      · cases text with
        | nil => simp at passes
        | cons c rest =>
            refine ⟨thread, .head _, c, rest, rfl, rfl, ?_⟩
            exact .set instruction rfl (by simpa using passes)
      · obtain ⟨origin, listed, follows⟩ := othersIH (by rw [advanced]; exact later)
        exact ⟨origin, .tail _ listed, follows⟩
  | case4 thread others chars address instruction threads ended advanced _ othersIH =>
      obtain ⟨origin, listed, follows⟩ := othersIH (by rw [advanced]; exact member)
      exact ⟨origin, .tail _ listed, follows⟩
  | case5 thread others _ _ othersIH =>
      obtain ⟨origin, listed, follows⟩ := othersIH member
      exact ⟨origin, .tail _ listed, follows⟩

theorem advance_ended {settled : List Thread} {slots : Slots}
    (ended : (advance code text.head? settled).2 = some slots) :
    ∃ thread ∈ settled, code[thread.address]? = some .found ∧ slots = thread.slots := by
  fun_induction advance code text.head? settled with
  | case1 => contradiction
  | case2 thread others instruction =>
      cases ended
      exact ⟨thread, .head _, instruction, rfl⟩
  | case3 thread others chars address instruction threads othersEnded advanced _ othersIH =>
      obtain ⟨origin, listed, found⟩ := othersIH (by rw [advanced]; exact ended)
      exact ⟨origin, .tail _ listed, found⟩
  | case4 thread others chars address instruction threads othersEnded advanced _ othersIH =>
      obtain ⟨origin, listed, found⟩ := othersIH (by rw [advanced]; exact ended)
      exact ⟨origin, .tail _ listed, found⟩
  | case5 thread others _ _ othersIH =>
      obtain ⟨origin, listed, found⟩ := othersIH ended
      exact ⟨origin, .tail _ listed, found⟩

theorem advance_ordered {settled : List Thread} (ordered : Ordered settled) :
    Ordered (advance code text.head? settled).1 ∧
      ∀ slots ∈ (advance code text.head? settled).2,
        ∀ next ∈ (advance code text.head? settled).1, next.start ≤ matchStart slots := by
  fun_induction advance code text.head? settled with
  | case1 => exact ⟨.nil, by simp⟩
  | case2 => exact ⟨.nil, by simp⟩
  | case3 thread others chars address instruction threads ended advanced _ othersIH =>
      obtain ⟨first, rest⟩ := List.pairwise_cons.mp ordered
      obtain ⟨inOrder, inFront⟩ := othersIH rest
      rw [advanced] at inOrder inFront
      constructor
      · refine List.pairwise_cons.mpr ⟨fun next member => ?_, inOrder⟩
        obtain ⟨origin, listed, follows⟩ :=
          mem_advance 0 none (by rw [advanced]; exact member)
        rw [follows.start_eq]
        exact first origin listed
      · intro slots isEnded next member
        rcases List.mem_cons.mp member with rfl | later
        · obtain ⟨origin, listed, _, rfl⟩ := advance_ended (by rw [advanced]; exact isEnded)
          exact first origin listed
        · exact inFront slots isEnded next later
  | case4 thread others chars address instruction threads ended advanced _ othersIH =>
      have front := othersIH (List.pairwise_cons.mp ordered).2
      rwa [advanced] at front
  | case5 thread others _ _ othersIH => exact othersIH (List.pairwise_cons.mp ordered).2

theorem advance_found {settled : List Thread} (ordered : Ordered settled) {thread : Thread}
    (member : thread ∈ settled) (found : code[thread.address]? = some .found) :
    ∃ slots ∈ (advance code text.head? settled).2, matchStart slots ≤ thread.start := by
  fun_induction advance code text.head? settled with
  | case1 => contradiction
  | case2 head others _ =>
      refine ⟨head.slots, rfl, ?_⟩
      rcases List.mem_cons.mp member with rfl | later
      · exact Nat.le_refl _
      · exact (List.pairwise_cons.mp ordered).1 thread later
  | case3 head others chars address instruction threads ended advanced _ othersIH =>
      rcases List.mem_cons.mp member with rfl | later
      · simp [instruction] at found
      · have earlier := othersIH (List.pairwise_cons.mp ordered).2 later
        rwa [advanced] at earlier
  | case4 head others chars address instruction threads ended advanced _ othersIH =>
      rcases List.mem_cons.mp member with rfl | later
      · simp [instruction] at found
      · have earlier := othersIH (List.pairwise_cons.mp ordered).2 later
        rwa [advanced] at earlier
  | case5 head others notFound _ othersIH =>
      rcases List.mem_cons.mp member with rfl | later
      · exact absurd found notFound
      · exact othersIH (List.pairwise_cons.mp ordered).2 later

theorem advance_set {c : Char} {settled : List Thread} (ordered : Ordered settled)
    {thread : Thread} (member : thread ∈ settled) {chars : CharClass} {next : Nat}
    (instruction : code[thread.address]? = some (.set chars next)) (passes : chars.mem c = true) :
    (∃ slots ∈ (advance code (some c) settled).2, matchStart slots ≤ thread.start) ∨
      ∃ kept ∈ (advance code (some c) settled).1, kept.address = next ∧
        kept.start = thread.start := by
  fun_induction advance code (some c) settled with
  | case1 => contradiction
  | case2 head others found =>
      refine .inl ⟨head.slots, rfl, ?_⟩
      rcases List.mem_cons.mp member with rfl | later
      · exact Nat.le_refl _
      · exact (List.pairwise_cons.mp ordered).1 thread later
  | case3 head others headChars address headInstruction threads ended advanced _ othersIH =>
      rcases List.mem_cons.mp member with rfl | later
      · rw [instruction] at headInstruction
        cases headInstruction
        exact .inr ⟨_, .head _, rfl, rfl⟩
      · have kept := othersIH (List.pairwise_cons.mp ordered).2 later
        rw [advanced] at kept
        rcases kept with earlier | ⟨next, listed, same⟩
        · exact .inl earlier
        · exact .inr ⟨next, .tail _ listed, same⟩
  | case4 head others headChars address headInstruction threads ended advanced stuck othersIH =>
      rcases List.mem_cons.mp member with rfl | later
      · rw [instruction] at headInstruction
        cases headInstruction
        exact absurd passes (by simpa using stuck)
      · have kept := othersIH (List.pairwise_cons.mp ordered).2 later
        rwa [advanced] at kept
  | case5 head others _ notSet othersIH =>
      rcases List.mem_cons.mp member with rfl | later
      · exact absurd instruction (notSet _ _)
      · exact othersIH (List.pairwise_cons.mp ordered).2 later

def round (code : Code) (place : Nat) (before : Option Char) (text : List Char)
    (started : List Thread) : List Thread × Option Slots :=
  advance code text.head? (closure code place before text.head?
    (2 * code.size + started.length + 1) (Array.replicate code.size false) #[] started).2.toList

theorem mem_round (notes : NotesGroups code) {started : List Thread} {next : Thread}
    (member : next ∈ (round code place before text started).1) :
    ∃ c rest, text = c :: rest ∧ ∃ thread ∈ started, next.start = thread.start ∧
      ∀ slots, next.Ends code (place + 1) (some c) rest slots →
        thread.Ends code place before text slots := by
  obtain ⟨middle, settled, c, rest, shape, sameSlots, step⟩ := mem_advance place before member
  have sameStart : next.start = middle.start := by rw [Thread.start, sameSlots, Thread.start]
  rcases closure_sound notes _ settled with impossible | ⟨thread, listed, begun, goesOn⟩
  · simp at impossible
  · refine ⟨c, rest, shape, thread, listed, sameStart.trans begun, ?_⟩
    intro slots ends
    obtain ⟨stop, run, ended⟩ := ends
    exact ⟨stop, goesOn stop (Runs.step step run), ended⟩

theorem round_ended (notes : NotesGroups code) {started : List Thread} {slots : Slots}
    (ended : (round code place before text started).2 = some slots) :
    ∃ thread ∈ started, matchStart slots = thread.start ∧
      thread.Ends code place before text (slots.setIfInBounds 1 (some place)) := by
  obtain ⟨middle, settled, found, rfl⟩ := advance_ended ended
  rcases closure_sound notes _ settled with impossible | ⟨thread, listed, begun, goesOn⟩
  · simp at impossible
  · exact ⟨thread, listed, begun, _, goesOn _ ⟨0, .found found⟩, rfl⟩

theorem round_ordered (notes : NotesGroups code) {started : List Thread}
    (ordered : Ordered started) :
    Ordered (round code place before text started).1 ∧
      ∀ slots ∈ (round code place before text started).2,
        ∀ next ∈ (round code place before text started).1, next.start ≤ matchStart slots :=
  advance_ordered (closure_ordered notes _ (by simpa using ordered))

theorem reaches_of_runs {address : Nat} {slots : Slots} {stop : Cursor}
    (runs : Runs code address ⟨slots, place, before, text⟩ stop) :
    ∃ goal, Reaches code before text.head? (Array.replicate code.size false) address goal ∧
      (code[goal]? = some .found ∨ ∃ chars next c rest, code[goal]? = some (.set chars next) ∧
        text = c :: rest ∧ chars.mem c = true ∧ Accepts code next (place + 1) (some c) rest) := by
  have unvisited : ∀ {address : Nat} {instruction : Instruction},
      code[address]? = some instruction →
        (Array.replicate code.size false).getD address true = false := by
    intro address instruction found
    obtain ⟨inside, _⟩ := Array.getElem?_eq_some_iff.mp found
    simp [Array.getD_eq_getD_getElem?, inside]
  obtain ⟨steps, run⟩ := runs
  induction steps generalizing address slots with
  | zero =>
      cases run with
      | found found => exact ⟨address, .here (unvisited found), .inl found⟩
  | succ steps stepsIH =>
      cases run with
      | step step rest =>
          cases step with
          | set found shape passes =>
              refine ⟨address, .here (unvisited found), .inr ?_⟩
              exact ⟨_, _, _, _, found, shape, passes, _, _, steps, rest⟩
          | look found holds =>
              obtain ⟨goal, reaches, settles⟩ := stepsIH rest
              exact ⟨goal, .step (unvisited found) (by simp_all [nexts]) reaches, settles⟩
          | first found =>
              obtain ⟨goal, reaches, settles⟩ := stepsIH rest
              exact ⟨goal, .step (unvisited found) (by simp [nexts, found]) reaches, settles⟩
          | second found =>
              obtain ⟨goal, reaches, settles⟩ := stepsIH rest
              exact ⟨goal, .step (unvisited found) (by simp [nexts, found]) reaches, settles⟩
          | save found =>
              obtain ⟨goal, reaches, settles⟩ := stepsIH rest
              exact ⟨goal, .step (unvisited found) (by simp [nexts, found]) reaches, settles⟩

theorem round_complete (notes : NotesGroups code) {started : List Thread}
    (ordered : Ordered started) {thread : Thread} (member : thread ∈ started)
    (accepts : Accepts code thread.address place before text) :
    (∃ slots ∈ (round code place before text started).2, matchStart slots ≤ thread.start) ∨
      ∃ c rest, text = c :: rest ∧ ∃ next ∈ (round code place before text started).1,
        next.start ≤ thread.start ∧ Accepts code next.address (place + 1) (some c) rest := by
  obtain ⟨slots, stop, runs⟩ := accepts
  -- The first instruction on the way that settles; some thread settles there, no later one.
  obtain ⟨goal, reaches, settles⟩ := reaches_of_runs runs
  have inOrder : Ordered (closure code place before text.head?
      (2 * code.size + started.length + 1) (Array.replicate code.size false) #[]
      started).2.toList := closure_ordered notes _ (by simpa using ordered)
  have enough : started.length + 2 * (Array.replicate code.size false).count false ≤
      2 * code.size + started.length + 1 := by
    rw [Array.count_replicate_self]
    omega
  have stays : (code[goal]?).any Instruction.settles = true := by
    rcases settles with found | ⟨_, _, _, _, found, _⟩ <;> simp [found, Instruction.settles]
  obtain ⟨settled, listed, rfl, earlier⟩ : ∃ settled ∈ (closure code place before text.head?
      (2 * code.size + started.length + 1) (Array.replicate code.size false) #[]
      started).2.toList, settled.address = goal ∧ settled.start ≤ thread.start :=
    closure_complete notes enough ordered member reaches stays
  rcases settles with found | ⟨chars, next, c, rest, found, rfl, passes, further⟩
  · obtain ⟨slots, ended, notLater⟩ := advance_found inOrder listed found
    exact .inl ⟨slots, ended, Nat.le_trans notLater earlier⟩
  · rcases advance_set inOrder listed found passes with
      ⟨slots, ended, notLater⟩ | ⟨kept, listedNow, rfl, same⟩
    · exact .inl ⟨slots, ended, Nat.le_trans notLater earlier⟩
    · exact .inr ⟨c, rest, rfl, kept, listedNow, same ▸ earlier, further⟩

def fresh (program : Program) (emptySlots : Slots) (place : Nat) : Thread :=
  ⟨program.start, emptySlots.setIfInBounds 0 (some place)⟩

/-- The threads of a round: a new one joins them while there is no match. -/
def started (program : Program) (emptySlots : Slots) (place : Nat) (threads : List Thread)
    (best : Option Slots) : List Thread :=
  if best.isSome then threads else threads ++ [fresh program emptySlots place]

/-- A match that ends at a place replaces the best one so far. -/
def bestAfter (place : Nat) (ended best : Option Slots) : Option Slots :=
  (ended.map fun slots => slots.setIfInBounds 1 (some place)).or best

variable {emptySlots : Slots} {threads : List Thread} {best : Option Slots}

def nextThreads (program : Program) (emptySlots : Slots) (place : Nat) (before : Option Char)
    (text : List Char) (threads : List Thread) (best : Option Slots) : List Thread :=
  (round program.code place before text (started program emptySlots place threads best)).1

def nextBest (program : Program) (emptySlots : Slots) (place : Nat) (before : Option Char)
    (text : List Char) (threads : List Thread) (best : Option Slots) : Option Slots :=
  bestAfter place
    (round program.code place before text (started program emptySlots place threads best)).2 best

theorem searchFrom_done (idle : (started program emptySlots place threads best).isEmpty = true) :
    searchFrom program emptySlots place before threads best text = best := by
  rw [searchFrom]
  exact if_pos idle

theorem searchFrom_nil (busy : (started program emptySlots place threads best).isEmpty = false) :
    searchFrom program emptySlots place before threads best [] =
      nextBest program emptySlots place before [] threads best := by
  rw [searchFrom]
  exact if_neg (Bool.eq_false_iff.mp busy)

theorem searchFrom_cons {c : Char} {rest : List Char}
    (busy : (started program emptySlots place threads best).isEmpty = false) :
    searchFrom program emptySlots place before threads best (c :: rest) =
      searchFrom program emptySlots (place + 1) (some c)
        (nextThreads program emptySlots place before (c :: rest) threads best)
        (nextBest program emptySlots place before (c :: rest) threads best) rest := by
  rw [searchFrom]
  exact if_neg (Bool.eq_false_iff.mp busy)

theorem mem_started {thread : Thread}
    (member : thread ∈ started program emptySlots place threads best) :
    thread ∈ threads ∨ thread = fresh program emptySlots place := by
  unfold started at member
  split at member
  · exact .inl member
  · simpa using member

theorem bestAfter_eq_some {ended : Option Slots} {slots : Slots}
    (found : bestAfter place ended best = some slots) :
    best = some slots ∨ ∃ last, ended = some last ∧ slots = last.setIfInBounds 1 (some place) := by
  cases ended with
  | none => exact .inl found
  | some last =>
      cases found
      exact .inr ⟨last, rfl, rfl⟩

theorem getLast?_cons_or (c : Char) (skipped : List Char) (before : Option Char) :
    (c :: skipped).getLast?.or before = skipped.getLast?.or (some c) := by
  cases skipped with
  | nil => rfl
  | cons => simp [List.getLast?_cons]

/-- One of the threads of a search, or a new one at a place of the text, gets to the end. -/
def EndsSomewhere (program : Program) (emptySlots : Slots) (place : Nat) (before : Option Char)
    (text : List Char) (threads : List Thread) (slots : Slots) : Prop :=
  (∃ thread ∈ threads, thread.Ends program.code place before text slots) ∨
    ∃ skipped rest, text = skipped ++ rest ∧
      (fresh program emptySlots (place + skipped.length)).Ends program.code
        (place + skipped.length) (skipped.getLast?.or before) rest slots

theorem EndsSomewhere.of_started {thread : Thread} {slots : Slots}
    (member : thread ∈ started program emptySlots place threads best)
    (ends : thread.Ends program.code place before text slots) :
    EndsSomewhere program emptySlots place before text threads slots := by
  rcases mem_started member with earlier | rfl
  · exact .inl ⟨thread, earlier, ends⟩
  · exact .inr ⟨[], text, rfl, ends⟩

theorem searchFrom_sound (notes : NotesGroups program.code) {slots : Slots}
    (found : searchFrom program emptySlots place before threads best text = some slots) :
    best = some slots ∨ EndsSomewhere program emptySlots place before text threads slots := by
  induction text generalizing place before threads best with
  | nil =>
      cases idle : (started program emptySlots place threads best).isEmpty with
      | true =>
          rw [searchFrom_done idle] at found
          exact .inl found
      | false =>
          rw [searchFrom_nil idle] at found
          rcases bestAfter_eq_some found with same | ⟨last, ended, rfl⟩
          · exact .inl same
          · obtain ⟨thread, listed, _, ends⟩ := round_ended notes ended
            exact .inr (.of_started listed ends)
  | cons c rest restIH =>
      cases idle : (started program emptySlots place threads best).isEmpty with
      | true =>
          rw [searchFrom_done idle] at found
          exact .inl found
      | false =>
          rw [searchFrom_cons idle] at found
          rcases restIH found with now | ⟨next, kept, ends⟩ | ⟨skipped, left, shape, ends⟩
          · rcases bestAfter_eq_some now with same | ⟨last, ended, rfl⟩
            · exact .inl same
            · obtain ⟨thread, listed, _, ends⟩ := round_ended notes ended
              exact .inr (.of_started listed ends)
          · obtain ⟨_, _, shape, thread, listed, _, earlierEnds⟩ := mem_round notes kept
            cases shape
            exact .inr (.of_started listed (earlierEnds slots ends))
          · refine .inr (.inr ⟨c :: skipped, left, by rw [shape, List.cons_append], ?_⟩)
            have places : place + 1 + skipped.length = place + (c :: skipped).length := by
              simp only [List.length_cons]
              omega
            rwa [places, ← getLast?_cons_or c skipped before] at ends

theorem start_fresh (room : 0 < emptySlots.size) :
    (fresh program emptySlots place).start = place := by
  simp [fresh, Thread.start, matchStart, room]

/-- The state of a search between two rounds. -/
structure Underway (place : Nat) (threads : List Thread) (best : Option Slots) : Prop where
  ordered : Ordered threads
  begun : ∀ thread ∈ threads, thread.start ≤ place
  best_begun : ∀ slots ∈ best, matchStart slots ≤ place
  best_last : ∀ slots ∈ best, ∀ thread ∈ threads, thread.start ≤ matchStart slots

namespace Underway

theorem initial (place : Nat) : Underway place [] none :=
  ⟨.nil, by simp, by simp, by simp⟩

theorem mem_started_of_best {slots : Slots} {thread : Thread} (isBest : best = some slots)
    (member : thread ∈ started program emptySlots place threads best) : thread ∈ threads := by
  subst isBest
  exact member

variable (underway : Underway place threads best) (room : 0 < emptySlots.size)

include underway room

theorem start_le_of_started {thread : Thread}
    (member : thread ∈ started program emptySlots place threads best) : thread.start ≤ place := by
  rcases mem_started member with earlier | rfl
  · exact underway.begun thread earlier
  · exact Nat.le_of_eq (start_fresh room)

theorem ordered_started : Ordered (started program emptySlots place threads best) := by
  unfold started
  split
  · exact underway.ordered
  · refine List.pairwise_append.mpr ⟨underway.ordered, List.pairwise_singleton _ _, ?_⟩
    intro earlier member later isFresh
    rw [List.mem_singleton.mp isFresh, start_fresh room]
    exact underway.begun earlier member

theorem next (notes : NotesGroups program.code) :
    Underway (place + 1) (nextThreads program emptySlots place before text threads best)
      (nextBest program emptySlots place before text threads best) := by
  have listed : Ordered (started program emptySlots place threads best) :=
    underway.ordered_started room
  constructor
  · exact (round_ordered notes listed).1
  · intro thread member
    obtain ⟨_, _, _, origin, listed, same, _⟩ := mem_round notes member
    have early := underway.start_le_of_started room listed
    omega
  · intro slots isBest
    rcases bestAfter_eq_some isBest with same | ⟨last, ended, rfl⟩
    · have early := underway.best_begun slots same
      omega
    · obtain ⟨thread, listed, same, _⟩ := round_ended notes ended
      have early := underway.start_le_of_started room listed
      rw [matchStart_setIfInBounds Nat.one_ne_zero]
      omega
  · intro slots isBest thread member
    rcases bestAfter_eq_some isBest with same | ⟨last, ended, rfl⟩
    · -- With a match found already no thread has begun here, so the old bound still holds.
      obtain ⟨_, _, _, origin, listed, sameStart, _⟩ := mem_round notes member
      rw [sameStart]
      exact underway.best_last slots same origin (mem_started_of_best same listed)
    · rw [matchStart_setIfInBounds Nat.one_ne_zero]
      exact (round_ordered notes listed).2 last ended thread member

end Underway

/-- There is a way to the end with a match that begins no later than a bound: the best one so far,
or one that goes on from a thread or begins at a place of the text. -/
def Within (program : Program) (place : Nat) (before : Option Char) (text : List Char)
    (threads : List Thread) (best : Option Slots) (bound : Nat) : Prop :=
  (∃ slots ∈ best, matchStart slots ≤ bound) ∨
    (∃ thread ∈ threads, thread.start ≤ bound ∧
      Accepts program.code thread.address place before text) ∨
    ∃ skipped rest, text = skipped ++ rest ∧ place + skipped.length ≤ bound ∧
      Accepts program.code program.start (place + skipped.length) (skipped.getLast?.or before) rest

namespace Within

variable (underway : Underway place threads best) (room : 0 < emptySlots.size) {bound : Nat}

include underway room

theorem begun_or_later (within : Within program place before text threads best bound) :
    (∃ slots ∈ best, matchStart slots ≤ bound) ∨
      (∃ thread ∈ started program emptySlots place threads best, thread.start ≤ bound ∧
        Accepts program.code thread.address place before text) ∨
      ∃ c skipped rest, text = c :: (skipped ++ rest) ∧ place + 1 + skipped.length ≤ bound ∧
        Accepts program.code program.start (place + 1 + skipped.length)
          (skipped.getLast?.or (some c)) rest := by
  rcases within with
    found | ⟨thread, listed, early, accepts⟩ | ⟨skipped, rest, shape, early, accepts⟩
  · exact .inl found
  · refine .inr (.inl ⟨thread, ?_, early, accepts⟩)
    unfold started
    split
    · exact listed
    · exact List.mem_append_left _ listed
  · cases skipped with
    | nil =>
        -- The way begins here: with the fresh thread, unless a match makes it needless.
        cases best with
        | some slots =>
            exact .inl ⟨slots, rfl, Nat.le_trans (underway.best_begun slots rfl) early⟩
        | none =>
            refine .inr (.inl ⟨fresh program emptySlots place, ?_, ?_, ?_⟩)
            · simp [started]
            · rw [start_fresh room]
              exact early
            · rw [shape]
              exact accepts
    | cons c skipped =>
        have places : place + (c :: skipped).length = place + 1 + skipped.length := by
          simp only [List.length_cons]
          omega
        rw [places, getLast?_cons_or] at accepts
        exact .inr (.inr ⟨c, skipped, rest, shape, places ▸ early, accepts⟩)

theorem best_of_idle (within : Within program place before text threads best bound)
    (idle : (started program emptySlots place threads best).isEmpty = true) :
    ∃ slots ∈ best, matchStart slots ≤ bound := by
  have noThread := List.isEmpty_iff.mp idle
  rcases within.begun_or_later underway room with
    found | ⟨thread, listed, _⟩ | ⟨_, skipped, _, _, early, _⟩
  · exact found
  · rw [noThread] at listed
    contradiction
  · cases best with
    | none => simp [started] at noThread
    | some slots =>
        have begun := underway.best_begun slots rfl
        exact ⟨slots, rfl, by omega⟩

omit room in
theorem nextBest_le (notes : NotesGroups program.code)
    (found : ∃ slots ∈ best, matchStart slots ≤ bound) :
    ∃ slots ∈ nextBest program emptySlots place before text threads best,
      matchStart slots ≤ bound := by
  obtain ⟨slots, isBest, early⟩ := found
  cases ended : (round program.code place before text
      (started program emptySlots place threads best)).2 with
  | none => exact ⟨slots, by simpa [nextBest, bestAfter, ended] using isBest, early⟩
  | some last =>
      obtain ⟨thread, listed, same, _⟩ := round_ended notes ended
      have notLater := underway.best_last slots isBest thread
        (Underway.mem_started_of_best isBest listed)
      refine ⟨last.setIfInBounds 1 (some place), by simp [nextBest, bestAfter, ended], ?_⟩
      rw [matchStart_setIfInBounds Nat.one_ne_zero, same]
      exact Nat.le_trans notLater early

theorem next_of_thread (notes : NotesGroups program.code) {thread : Thread}
    (listed : thread ∈ started program emptySlots place threads best)
    (early : thread.start ≤ bound)
    (accepts : Accepts program.code thread.address place before text) :
    (∃ slots ∈ nextBest program emptySlots place before text threads best,
      matchStart slots ≤ bound) ∨
      ∃ c rest, text = c :: rest ∧
        ∃ next ∈ nextThreads program emptySlots place before text threads best,
          next.start ≤ bound ∧ Accepts program.code next.address (place + 1) (some c) rest := by
  rcases round_complete notes (underway.ordered_started room) listed accepts with
    ⟨slots, ended, notLater⟩ | ⟨c, rest, shape, next, kept, notLater, further⟩
  · refine .inl ⟨slots.setIfInBounds 1 (some place), ?_, ?_⟩
    · rw [Option.mem_def] at ended
      simp [nextBest, bestAfter, ended]
    · rw [matchStart_setIfInBounds Nat.one_ne_zero]
      exact Nat.le_trans notLater early
  · exact .inr ⟨c, rest, shape, next, kept, Nat.le_trans notLater early, further⟩

end Within

theorem searchFrom_within (notes : NotesGroups program.code) (room : 0 < emptySlots.size)
    (underway : Underway place threads best) {bound : Nat}
    (within : Within program place before text threads best bound) :
    ∃ slots, searchFrom program emptySlots place before threads best text = some slots ∧
      matchStart slots ≤ bound := by
  induction text generalizing place before threads best with
  | nil =>
      cases idle : (started program emptySlots place threads best).isEmpty with
      | true =>
          rw [searchFrom_done idle]
          exact within.best_of_idle underway room idle
      | false =>
          rw [searchFrom_nil idle]
          rcases within.begun_or_later underway room with
            found | ⟨thread, listed, early, accepts⟩ | ⟨_, _, _, shape, _⟩
          · exact Within.nextBest_le underway notes found
          · rcases Within.next_of_thread underway room notes listed early accepts with
              found | ⟨_, _, shape, _⟩
            · exact found
            · contradiction
          · contradiction
  | cons c rest restIH =>
      cases idle : (started program emptySlots place threads best).isEmpty with
      | true =>
          rw [searchFrom_done idle]
          exact within.best_of_idle underway room idle
      | false =>
          rw [searchFrom_cons idle]
          refine restIH (underway.next room notes) ?_
          rcases within.begun_or_later underway room with
            found | ⟨thread, listed, early, accepts⟩ | ⟨_, skipped, left, shape, early, accepts⟩
          · exact .inl (Within.nextBest_le underway notes found)
          · rcases Within.next_of_thread underway room notes listed early accepts with
              found | ⟨_, _, shape, further⟩
            · exact .inl found
            · cases shape
              exact .inr (.inl further)
          · cases shape
            exact .inr (.inr ⟨skipped, left, rfl, early, accepts⟩)

theorem matchStart_of_runs (notes : NotesGroups code) {address : Nat} {start stop : Cursor}
    (runs : Runs code address start stop) : matchStart stop.slots = matchStart start.slots := by
  obtain ⟨steps, run⟩ := runs
  induction run with
  | found => rfl
  | step step _ restIH =>
      rw [restIH]
      cases step with
      | save instruction =>
          have other := notes _ _ _ instruction
          exact matchStart_setIfInBounds (by omega) _ _
      | _ => rfl

/-- An expression matches at a place and notes these slots. -/
def Expr.MatchesAt (expr : Expr) (emptySlots : Slots) (place : Nat) (before : Option Char)
    (rest : List Char) (slots : Slots) : Prop :=
  ∃ stop, expr.Takes ⟨emptySlots.setIfInBounds 0 (some place), place, before, rest⟩ stop ∧
    slots = stop.slots.setIfInBounds 1 (some stop.place)

section Leftmost

variable {expr : Expr} (numbers : expr.NumbersGroups) (room : 0 < emptySlots.size)

include numbers room

theorem searchFrom_isSome {skipped rest : List Char} {slots : Slots}
    (isMatch : expr.MatchesAt emptySlots (place + skipped.length) (skipped.getLast?.or before) rest
      slots) :
    ∃ first, searchFrom (Program.ofExpr expr) emptySlots place before [] none (skipped ++ rest) =
      some first ∧ matchStart first ≤ place + skipped.length := by
  obtain ⟨stop, takes, _⟩ := isMatch
  refine searchFrom_within (notesGroups_ofExpr numbers) room (.initial place) (.inr (.inr ?_))
  exact ⟨skipped, rest, rfl, Nat.le_refl _, _, stop, runs_ofExpr_iff.mpr takes⟩

/-- Where a search fails the expression matches nowhere. -/
theorem searchFrom_none
    (failed : searchFrom (Program.ofExpr expr) emptySlots place before [] none text = none)
    (skipped rest : List Char) (split : text = skipped ++ rest) (slots : Slots) :
    ¬ expr.MatchesAt emptySlots (place + skipped.length) (skipped.getLast?.or before) rest
      slots := by
  intro isMatch
  obtain ⟨first, found, _⟩ := searchFrom_isSome numbers room isMatch
  rw [← split, failed] at found
  contradiction

/-- A search finds a match in front of which there is none. -/
theorem searchFrom_some {slots : Slots}
    (found : searchFrom (Program.ofExpr expr) emptySlots place before [] none text = some slots) :
    ∃ skipped rest, text = skipped ++ rest ∧
      expr.MatchesAt emptySlots (place + skipped.length) (skipped.getLast?.or before) rest slots ∧
      ∀ earlier left, text = earlier ++ left → earlier.length < skipped.length → ∀ others,
        ¬ expr.MatchesAt emptySlots (place + earlier.length) (earlier.getLast?.or before) left
          others := by
  have notes := notesGroups_ofExpr numbers
  rcases searchFrom_sound notes found with
    impossible | ⟨_, impossible, _⟩ | ⟨skipped, rest, split, ends⟩
  · contradiction
  · contradiction
  · obtain ⟨stop, runs, rfl⟩ := ends
    refine ⟨skipped, rest, split, ⟨stop, runs_ofExpr_iff.mp runs, rfl⟩, ?_⟩
    intro earlier left earlierSplit shorter others isMatch
    obtain ⟨first, foundFirst, early⟩ := searchFrom_isSome numbers room isMatch
    rw [← earlierSplit, found] at foundFirst
    cases foundFirst
    -- The match found begins where its thread began, so none can begin before it.
    rw [matchStart_setIfInBounds Nat.one_ne_zero, matchStart_of_runs notes runs] at early
    have begun : (fresh (Program.ofExpr expr) emptySlots (place + skipped.length)).start =
        place + skipped.length := start_fresh room
    have sameStart : matchStart ((fresh (Program.ofExpr expr) emptySlots
        (place + skipped.length)).cursor (place + skipped.length) (skipped.getLast?.or before)
        rest).slots = place + skipped.length := begun
    omega

end Leftmost

end Stencil.Regex
