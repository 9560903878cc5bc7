import Stencil.Proofs.Regex.Compiling
import Stencil.Proofs.Regex.Denotation

namespace Stencil.Regex

/-! What following threads up to the next character comes to.

A thread settles where it takes a character or ends the search.  Every settled thread goes on where
some thread of the work list came from (`closure_sound`).  Conversely every address that can be
reached from the work list has a thread settled there, whose match begins no later
(`closure_complete`): of the threads that come to one address only the first is kept, and the
threads of a work list are in the order in which their matches begin.
-/

/-- Where the match with some noted places begins. -/
def matchStart (slots : Slots) : Nat :=
  (slots[0]?.join).getD 0

theorem matchStart_setIfInBounds {slot : Nat} (other : slot ≠ 0) (slots : Slots)
    (place : Option Nat) : matchStart (slots.setIfInBounds slot place) = matchStart slots := by
  simp [matchStart, other]

namespace Thread

def start (thread : Thread) : Nat :=
  matchStart thread.slots

def cursor (thread : Thread) (place : Nat) (before : Option Char) (rest : List Char) : Cursor :=
  ⟨thread.slots, place, before, rest⟩

end Thread

def Ordered (threads : List Thread) : Prop :=
  threads.Pairwise fun earlier later => earlier.start ≤ later.start

/-- Instructions that take a character or end the search. -/
def Instruction.settles : Instruction → Bool
  | .set .. | .found => true
  | _ => false

/-- The threads that a thread goes on as without taking a character. -/
def successors (code : Code) (place : Nat) (before after : Option Char) (thread : Thread) :
    List Thread :=
  match code[thread.address]? with
  | some (.look condition next) =>
      if condition.holds before after then [{ thread with address := next }] else []
  | some (.split first second) =>
      [{ thread with address := first }, { thread with address := second }]
  | some (.save slot next) => [⟨next, thread.slots.setIfInBounds slot (some place)⟩]
  | _ => []

variable {code : Code} {place : Nat} {before after : Option Char}

theorem closure_nil (fuel : Nat) (visited : Array Bool) (settled : Array Thread) :
    closure code place before after fuel visited settled [] = (visited, settled) := by
  cases fuel <;> rw [closure]

theorem closure_visited (fuel : Nat) {visited : Array Bool} {thread : Thread}
    (wasVisited : visited.getD thread.address true = true) (settled : Array Thread)
    (rest : List Thread) :
    closure code place before after (fuel + 1) visited settled (thread :: rest) =
      closure code place before after fuel visited settled rest := by
  rw [closure, if_pos wasVisited]

theorem closure_unvisited (fuel : Nat) {visited : Array Bool} {thread : Thread}
    (notVisited : visited.getD thread.address true = false) (settled : Array Thread)
    (rest : List Thread) :
    closure code place before after (fuel + 1) visited settled (thread :: rest) =
      closure code place before after fuel (visited.setIfInBounds thread.address true)
        (if (code[thread.address]?).any Instruction.settles then settled.push thread else settled)
        (successors code place before after thread ++ rest) := by
  rw [closure, if_neg (by simp [notVisited])]
  dsimp only [successors]
  cases found : code[thread.address]? with
  | none => rfl
  | some instruction =>
      cases instruction with
      | look condition next =>
          by_cases holds : condition.holds before after = true <;>
            simp [holds, Instruction.settles]
      | _ => simp [Instruction.settles]

theorem length_successors_le (thread : Thread) :
    (successors code place before after thread).length ≤ 2 := by
  unfold successors
  split
  · split <;> simp
  · simp
  · simp
  · simp

theorem steps_of_mem_successors {rest : List Char} {thread next : Thread}
    (member : next ∈ successors code place before rest.head? thread) :
    Steps code thread.address (thread.cursor place before rest) next.address
      (next.cursor place before rest) := by
  unfold successors at member
  split at member
  · next condition address instruction =>
      split at member
      · next holds =>
          cases List.mem_singleton.mp member
          exact .look instruction holds
      · simp at member
  · next first second instruction =>
      simp only [List.mem_cons, List.not_mem_nil, or_false] at member
      rcases member with rfl | rfl
      · exact .first instruction
      · exact .second instruction
  · next slot address instruction =>
      cases List.mem_singleton.mp member
      exact .save instruction
  · simp at member

theorem start_of_mem_successors (notes : NotesGroups code) {thread next : Thread}
    (member : next ∈ successors code place before after thread) : next.start = thread.start := by
  unfold successors at member
  split at member
  · split at member
    · cases List.mem_singleton.mp member
      rfl
    · simp at member
  · simp only [List.mem_cons, List.not_mem_nil, or_false] at member
    rcases member with rfl | rfl <;> rfl
  · next slot address instruction =>
      cases List.mem_singleton.mp member
      have other : 2 ≤ slot := notes _ _ _ instruction
      exact matchStart_setIfInBounds (by omega) _ _
  · simp at member

theorem closure_sound {rest : List Char} (notes : NotesGroups code) (fuel : Nat)
    {visited : Array Bool} {settled : Array Thread} {worklist : List Thread} {thread : Thread}
    (member : thread ∈
      (closure code place before rest.head? fuel visited settled worklist).2.toList) :
    thread ∈ settled.toList ∨ ∃ origin ∈ worklist, thread.start = origin.start ∧
      ∀ stop, Runs code thread.address (thread.cursor place before rest) stop →
        Runs code origin.address (origin.cursor place before rest) stop := by
  induction fuel generalizing visited settled worklist with
  | zero => exact .inl member
  | succ fuel fuelIH =>
      cases worklist with
      | nil =>
          rw [closure_nil] at member
          exact .inl member
      | cons head others =>
          cases wasVisited : visited.getD head.address true with
          | true =>
              rw [closure_visited _ wasVisited] at member
              rcases fuelIH member with earlier | ⟨origin, listed, goesOn⟩
              · exact .inl earlier
              · exact .inr ⟨origin, .tail _ listed, goesOn⟩
          | false =>
              rw [closure_unvisited _ wasVisited] at member
              rcases fuelIH member with settledNow | ⟨origin, listed, sameStart, goesOn⟩
              · split at settledNow
                · rw [Array.toList_push, List.mem_append, List.mem_singleton] at settledNow
                  rcases settledNow with earlier | rfl
                  · exact .inl earlier
                  · exact .inr ⟨thread, .head _, rfl, fun _ run => run⟩
                · exact .inl settledNow
              · rcases List.mem_append.mp listed with successor | other
                · -- A successor's run is a run of the head, one instruction later.
                  refine .inr ⟨head, .head _, ?_, fun stop run => ?_⟩
                  · rw [sameStart, start_of_mem_successors notes successor]
                  · exact Runs.step (steps_of_mem_successors successor) (goesOn stop run)
                · exact .inr ⟨origin, .tail _ other, sameStart, goesOn⟩

/-- A thread may stand together with its successors. -/
theorem ordered_successors (place : Nat) (before after : Option Char) (notes : NotesGroups code)
    {settled others : List Thread} {thread : Thread}
    (ordered : Ordered (settled ++ thread :: others)) :
    Ordered (settled ++ thread :: (successors code place before after thread ++ others)) := by
  obtain ⟨earlier, remaining, across⟩ := List.pairwise_append.mp ordered
  obtain ⟨first, rest⟩ := List.pairwise_cons.mp remaining
  have sameStart : ∀ next ∈ successors code place before after thread,
      next.start = thread.start := fun next member => start_of_mem_successors notes member
  refine List.pairwise_append.mpr ⟨earlier, List.pairwise_cons.mpr ⟨?_, ?_⟩, ?_⟩
  · intro next member
    rcases List.mem_append.mp member with successor | other
    · exact Nat.le_of_eq (sameStart next successor).symm
    · exact first next other
  · refine List.pairwise_append.mpr ⟨?_, rest, ?_⟩
    · refine List.pairwise_of_forall_mem_list fun left leftMember right rightMember => ?_
      exact Nat.le_of_eq ((sameStart left leftMember).trans (sameStart right rightMember).symm)
    · intro left leftMember right rightMember
      rw [sameStart left leftMember]
      exact first right rightMember
  · intro left leftMember right rightMember
    rcases List.mem_cons.mp rightMember with rfl | later
    · exact across left leftMember right (.head _)
    · rcases List.mem_append.mp later with successor | other
      · rw [sameStart right successor]
        exact across left leftMember thread (.head _)
      · exact across left leftMember right (.tail _ other)

theorem closure_ordered (notes : NotesGroups code) (fuel : Nat) {visited : Array Bool}
    {settled : Array Thread} {worklist : List Thread}
    (ordered : Ordered (settled.toList ++ worklist)) :
    Ordered (closure code place before after fuel visited settled worklist).2.toList := by
  induction fuel generalizing visited settled worklist with
  | zero => exact (List.pairwise_append.mp ordered).1
  | succ fuel fuelIH =>
      cases worklist with
      | nil =>
          rw [closure_nil]
          exact (List.pairwise_append.mp ordered).1
      | cons head others =>
          cases wasVisited : visited.getD head.address true with
          | true =>
              rw [closure_visited _ wasVisited]
              exact fuelIH (ordered.sublist (.append_left (List.sublist_cons_self _ _) _))
          | false =>
              rw [closure_unvisited _ wasVisited]
              have together := ordered_successors place before after notes ordered
              refine fuelIH ?_
              split
              · rwa [Array.toList_push, List.append_assoc]
              · exact together.sublist (.append_left (List.sublist_cons_self _ _) _)

theorem mem_closure_of_mem_settled (fuel : Nat) {visited : Array Bool} {settled : Array Thread}
    {worklist : List Thread} {thread : Thread} (member : thread ∈ settled.toList) :
    thread ∈ (closure code place before after fuel visited settled worklist).2.toList := by
  induction fuel generalizing visited settled worklist with
  | zero => exact member
  | succ fuel fuelIH =>
      cases worklist with
      | nil => rwa [closure_nil]
      | cons head others =>
          cases wasVisited : visited.getD head.address true with
          | true =>
              rw [closure_visited _ wasVisited]
              exact fuelIH member
          | false =>
              rw [closure_unvisited _ wasVisited]
              refine fuelIH ?_
              split
              · simp [member]
              · exact member

/-- The addresses that an address leads to without taking a character. -/
def nexts (code : Code) (before after : Option Char) (address : Nat) : List Nat :=
  match code[address]? with
  | some (.look condition next) => if condition.holds before after then [next] else []
  | some (.split first second) => [first, second]
  | some (.save _ next) => [next]
  | _ => []

theorem map_address_successors (place : Nat) (thread : Thread) :
    (successors code place before after thread).map Thread.address =
      nexts code before after thread.address := by
  unfold successors nexts
  split
  · split <;> rfl
  · rfl
  · rfl
  · simp_all

/-- An address is reached without a visited one on the way. -/
inductive Reaches (code : Code) (before after : Option Char) (visited : Array Bool) :
    Nat → Nat → Prop where
  | here {address : Nat} :
      visited.getD address true = false → Reaches code before after visited address address
  | step {address next goal : Nat} :
      visited.getD address true = false → next ∈ nexts code before after address →
      Reaches code before after visited next goal → Reaches code before after visited address goal

theorem getD_setIfInBounds {visited : Array Bool} {address other : Nat}
    (different : other ≠ address) :
    (visited.setIfInBounds address true).getD other true = visited.getD other true := by
  simp [Array.getD_eq_getD_getElem?, Array.getElem?_setIfInBounds_ne different.symm]

/-- A way either keeps clear of one more address, or what follows its last visit there does. -/
theorem Reaches.split {visited : Array Bool} {address goal : Nat}
    (reaches : Reaches code before after visited address goal) (cut : Nat) :
    goal = cut ∨ ∃ entry, (entry = address ∨ entry ∈ nexts code before after cut) ∧
      Reaches code before after (visited.setIfInBounds cut true) entry goal := by
  induction reaches with
  | @here address unvisited =>
      by_cases same : address = cut
      · exact .inl same
      · exact .inr ⟨address, .inl rfl, .here (by rw [getD_setIfInBounds same, unvisited])⟩
  | @step address next goal unvisited isNext _ restIH =>
      rcases restIH with done | ⟨entry, rfl | isAfter, rest⟩
      · exact .inl done
      · by_cases same : address = cut
        · exact .inr ⟨entry, .inr (same ▸ isNext), rest⟩
        · exact .inr ⟨address, .inl rfl,
            .step (by rw [getD_setIfInBounds same, unvisited]) isNext rest⟩
      · exact .inr ⟨entry, .inr isAfter, rest⟩

theorem Reaches.unvisited {visited : Array Bool} {address goal : Nat}
    (reaches : Reaches code before after visited address goal) :
    visited.getD address true = false := by
  cases reaches <;> assumption

theorem count_setIfInBounds {visited : Array Bool} {address : Nat}
    (unvisited : visited.getD address true = false) :
    (visited.setIfInBounds address true).count false + 1 = visited.count false := by
  have inside : address < visited.size := by
    apply Decidable.byContradiction
    intro outside
    simp [Array.getD_eq_getD_getElem?, Array.getElem?_eq_none (Nat.le_of_not_lt outside)]
      at unvisited
  have here : visited[address] = false := by
    simpa [Array.getD_eq_getD_getElem?, Array.getElem?_eq_getElem inside] using unvisited
  have positive : 0 < visited.count false :=
    Array.count_pos_iff.mpr (here ▸ Array.getElem_mem inside)
  rw [Array.setIfInBounds_def, dif_pos inside, Array.count_set inside]
  simp [here]
  omega

theorem closure_complete (notes : NotesGroups code) {fuel : Nat} {visited : Array Bool}
    {settled : Array Thread} {worklist : List Thread} {thread : Thread} {address : Nat}
    (enough : worklist.length + 2 * visited.count false ≤ fuel) (ordered : Ordered worklist)
    (member : thread ∈ worklist)
    (reaches : Reaches code before after visited thread.address address)
    (settles : (code[address]?).any Instruction.settles = true) :
    ∃ found ∈ (closure code place before after fuel visited settled worklist).2.toList,
      found.address = address ∧ found.start ≤ thread.start := by
  induction fuel generalizing visited settled worklist thread with
  | zero =>
      cases worklist with
      | nil => contradiction
      | cons => simp at enough
  | succ fuel fuelIH =>
      cases worklist with
      | nil => contradiction
      | cons head others =>
          obtain ⟨first, rest⟩ := List.pairwise_cons.mp ordered
          have notLater : head.start ≤ thread.start := by
            rcases List.mem_cons.mp member with rfl | other
            · exact Nat.le_refl _
            · exact first thread other
          rw [List.length_cons] at enough
          cases wasVisited : visited.getD head.address true with
          | true =>
              rw [closure_visited _ wasVisited]
              refine fuelIH (by omega) rest ?_ reaches
              rcases List.mem_cons.mp member with rfl | other
              · rw [reaches.unvisited] at wasVisited
                contradiction
              · exact other
          | false =>
              rw [closure_unvisited _ wasVisited]
              -- One address is visited that was not, which pays for at most two more threads.
              have fewer := count_setIfInBounds wasVisited
              have atMostTwo : (successors code place before after head).length ≤ 2 :=
                length_successors_le head
              have together : Ordered ([] ++ head ::
                  (successors code place before after head ++ others)) :=
                ordered_successors place before after notes ordered
              have later : Ordered (successors code place before after head ++ others) :=
                (List.pairwise_cons.mp together).2
              rcases reaches.split head.address with rfl | ⟨entry, isEntry, clear⟩
              · -- The goal is where the head stands, so the head settles there.
                refine ⟨head, mem_closure_of_mem_settled fuel ?_, rfl, notLater⟩
                simp [settles]
              · have enoughLeft : (successors code place before after head ++ others).length +
                    2 * (visited.setIfInBounds head.address true).count false ≤ fuel := by
                  rw [List.length_append]
                  omega
                rcases isEntry with rfl | isNext
                · refine fuelIH enoughLeft later (List.mem_append_right _ ?_) clear
                  rcases List.mem_cons.mp member with rfl | other
                  · have visitedNow := clear.unvisited
                    simp [Array.getD_eq_getD_getElem?] at visitedNow
                  · exact other
                · -- The way comes back to the head, whose successors go on from there.
                  rw [← map_address_successors place] at isNext
                  obtain ⟨next, successor, rfl⟩ := List.mem_map.mp isNext
                  obtain ⟨found, settledThere, sameAddress, earlier⟩ :=
                    fuelIH enoughLeft later (List.mem_append_left _ successor) clear
                  refine ⟨found, settledThere, sameAddress, ?_⟩
                  rw [start_of_mem_successors notes successor] at earlier
                  exact Nat.le_trans earlier notLater

end Stencil.Regex
