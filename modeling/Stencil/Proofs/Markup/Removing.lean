import Mathlib.Data.List.Basic
import Mathlib.Data.List.Chain
import Stencil.Markup.Pattern

namespace Stencil.Markup

open scoped List

/-! What removals leave of a text.

A removal can be followed through a text whose characters carry their places along.  Characters with
places in a row stood side by side in the text from the start, so no match can be left of them: only
where something was taken out in between, a new match can have come together.
-/

/-! ## Characters with their places -/

/-- The places of the characters follow each other without a gap. -/
def Consecutive (part : List (Char × Nat)) : Prop :=
  part.IsChain fun x y => y.2 = x.2 + 1

def Increasing (placed : List (Char × Nat)) : Prop :=
  placed.Pairwise fun x y => x.2 < y.2

theorem increasing_zipIdx (text : List Char) (start : Nat) : Increasing (text.zipIdx start) := by
  induction text generalizing start with
  | nil => exact .nil
  | cons c rest restIH =>
      exact .cons (fun x member => List.le_snd_of_mem_zipIdx member) (restIH (start + 1))

theorem consecutive_zipIdx (text : List Char) (start : Nat) : Consecutive (text.zipIdx start) := by
  induction text generalizing start with
  | nil => exact .nil
  | cons c rest restIH =>
      cases rest with
      | nil => exact .singleton _
      | cons d rest => exact .cons_cons rfl (restIH (start + 1))

/-- Nothing that increases fits in between consecutive places. -/
theorem prefix_of_consecutive {x : Char × Nat} {part following : List (Char × Nat)}
    (increasing : Increasing (x :: following)) (consecutive : Consecutive (x :: part))
    (kept : part <+ following) : part <+: following := by
  induction part generalizing x following with
  | nil => exact List.nil_prefix
  | cons y part partIH =>
      obtain ⟨next, partConsecutive⟩ := List.isChain_cons_cons.mp consecutive
      obtain ⟨above, followingIncreasing⟩ := List.pairwise_cons.mp increasing
      cases kept with
      | cons z later =>
          have xz : x.2 < z.2 := above z List.mem_cons_self
          have zy : z.2 < y.2 :=
            List.rel_of_pairwise_cons followingIncreasing (later.subset List.mem_cons_self)
          omega
      | cons_cons _ later =>
          exact List.cons_prefix_cons.mpr ⟨rfl, partIH followingIncreasing partConsecutive later⟩

theorem infix_of_consecutive {part placed : List (Char × Nat)} (increasing : Increasing placed)
    (consecutive : Consecutive part) (kept : part <+ placed) : part <:+: placed := by
  induction kept with
  | slnil => exact List.infix_rfl
  | cons x _ restIH =>
      exact (restIH (List.pairwise_cons.mp increasing).2 consecutive).trans
        (List.suffix_cons x _).isInfix
  | cons_cons x later _ =>
      exact (List.cons_prefix_cons.mpr
        ⟨rfl, prefix_of_consecutive increasing consecutive later⟩).isInfix

/-- A character stands at one place only. -/
theorem following_unique {x : Char × Nat} {front front' following following' : List (Char × Nat)}
    (increasing : Increasing (front ++ x :: following))
    (same : front ++ x :: following = front' ++ x :: following') : following = following' := by
  obtain ⟨_, restIncreasing, below⟩ := List.pairwise_append.mp increasing
  have notBefore : x ∉ front := fun member =>
    Nat.lt_irrefl _ (below x member x List.mem_cons_self)
  have notBehind : x ∉ following := fun member =>
    Nat.lt_irrefl _ (List.rel_of_pairwise_cons restIncreasing member)
  exact ((List.append_cons_inj_of_notMem notBefore notBehind).mp same).2.2

/-- Characters in a row are followed, wherever the first one is found, by the others. -/
theorem prefix_following {x : Char × Nat} {part front following : List (Char × Nat)}
    (increasing : Increasing (front ++ x :: following)) (consecutive : Consecutive (x :: part))
    (kept : x :: part <+ front ++ x :: following) : part <+: following := by
  obtain ⟨before, after, whole⟩ := infix_of_consecutive increasing consecutive kept
  rw [List.append_assoc, List.cons_append] at whole
  exact ⟨after, following_unique (whole ▸ increasing) whole⟩

/-! ## Splitting at a match -/

/-- The characters of a match that leaves the text `after`. -/
def taken (placed : List (Char × Nat)) (after : List Char) : List (Char × Nat) :=
  placed.take (placed.length - after.length)

/-- The characters behind a match that leaves the text `after`. -/
def behind (placed : List (Char × Nat)) (after : List Char) : List (Char × Nat) :=
  placed.drop (placed.length - after.length)

theorem taken_append_behind (placed : List (Char × Nat)) (after : List Char) :
    taken placed after ++ behind placed after = placed :=
  List.take_append_drop _ _

theorem length_behind_le (placed : List (Char × Nat)) (after : List Char) :
    (behind placed after).length ≤ after.length := by
  rw [behind, List.length_drop]
  omega

theorem fst_taken_behind {placed : List (Char × Nat)} {front after : List Char}
    (split : placed.map Prod.fst = front ++ after) :
    (taken placed after).map Prod.fst = front ∧ (behind placed after).map Prod.fst = after := by
  have length : placed.length - after.length = front.length := by
    rw [← List.length_map Prod.fst, split, List.length_append, Nat.add_sub_cancel]
  rw [taken, behind, List.map_take, List.map_drop, length, split, List.take_left, List.drop_left]
  exact ⟨rfl, rfl⟩

/-- A way of removing constructs from texts, followed by the places of what is kept. -/
structure Stripper where
  strip : List Char → List Char
  stripPlaced : List (Char × Nat) → List (Char × Nat)
  /-- Tells whether a part of a text, between what stands before and behind it, is a construct. -/
  Finds : (before part after : List Char) → Prop
  fst_stripPlaced : ∀ placed, (stripPlaced placed).map Prod.fst = strip (placed.map Prod.fst)
  stripPlaced_sublist : ∀ placed, stripPlaced placed <+ placed
  eq_self_of_not_finds : ∀ {text : List Char},
    (∀ before part after, text = before ++ part ++ after → ¬ Finds before part after) →
      strip text = text
  /-- No construct that stood in the text as it is remains. -/
  apart : ∀ {placed before part after : List (Char × Nat)}, Increasing placed →
    stripPlaced placed = before ++ part ++ after →
      Finds (before.map Prod.fst) (part.map Prod.fst) (after.map Prod.fst) → ¬ Consecutive part

namespace Stripper

variable (stripper : Stripper) (text : List Char)

/-- What is kept of a text, with the places of the characters in it. -/
def kept : List (Char × Nat) :=
  stripper.stripPlaced text.zipIdx

theorem fst_kept : (stripper.kept text).map Prod.fst = stripper.strip text := by
  rw [kept, stripper.fst_stripPlaced, List.zipIdx_map_fst]

theorem kept_sublist : stripper.kept text <+ text.zipIdx :=
  stripper.stripPlaced_sublist _

theorem strip_eq_self_iff : stripper.strip text = text ↔
    ∀ before part after, text = before ++ part ++ after → ¬ stripper.Finds before part after := by
  refine ⟨fun same before part after split found => ?_, stripper.eq_self_of_not_finds⟩
  have length : (stripper.kept text).length = text.zipIdx.length := by
    rw [← List.length_map Prod.fst, fst_kept, same, List.length_zipIdx]
  have all : stripper.kept text = text.zipIdx := (stripper.kept_sublist text).eq_of_length length
  have letters : (stripper.kept text).map Prod.fst = before ++ part ++ after := by
    rw [fst_kept, same, split]
  obtain ⟨front, afterPlaced, whole, frontLetters, rfl⟩ := List.map_eq_append_iff.mp letters
  obtain ⟨beforePlaced, partPlaced, rfl, rfl, rfl⟩ := List.map_eq_append_iff.mp frontLetters
  have consecutive := consecutive_zipIdx text 0
  rw [← all, whole] at consecutive
  exact stripper.apart (increasing_zipIdx text 0) whole found
    consecutive.left_of_append.right_of_append

end Stripper

/-! ## Patterns -/

namespace Pattern

variable {pattern : Pattern} {text : List Char}

/-- A match is the front of the text, and whatever follows it instead, something matches there. -/
structure Persistent (pattern : Pattern) : Prop where
  takes : ∀ {text after : List Char}, pattern.after? text = some after →
    ∃ taken, text = taken ++ after ∧ ∀ rest, (pattern.after? (taken ++ rest)).isSome

theorem after?_nil (pattern : Pattern) : pattern.after? [] = none := by
  cases found : pattern.after? [] with
  | none => rfl
  | some after => exact absurd (pattern.shorter found) (Nat.not_lt_zero _)

@[simp] theorem removeAll_nil : pattern.removeAll [] = [] := by
  rw [removeAll]

theorem removeAll_cons_of_some {c : Char} {rest after : List Char}
    (found : pattern.after? (c :: rest) = some after) :
    pattern.removeAll (c :: rest) = pattern.removeAll after := by
  rw [removeAll]
  split
  · next other =>
      cases found.symm.trans other
      rfl
  · next missing => cases found.symm.trans missing

theorem removeAll_cons_of_none {c : Char} {rest : List Char}
    (missing : pattern.after? (c :: rest) = none) :
    pattern.removeAll (c :: rest) = c :: pattern.removeAll rest := by
  rw [removeAll]
  split
  · next found => cases missing.symm.trans found
  · rfl

theorem removeAll_eq_self (nowhere : ∀ rest, rest <:+ text → pattern.after? rest = none) :
    pattern.removeAll text = text := by
  induction text with
  | nil => exact removeAll_nil
  | cons c rest restIH =>
      rw [removeAll_cons_of_none (nowhere _ List.suffix_rfl),
        restIH fun other isSuffix => nowhere other (isSuffix.trans (List.suffix_cons c rest))]

/-- The removal on characters that carry their places along. -/
def removePlaced (pattern : Pattern) : List (Char × Nat) → List (Char × Nat)
  | [] => []
  | x :: rest =>
      match _found : pattern.after? ((x :: rest).map Prod.fst) with
      | some after => pattern.removePlaced (behind (x :: rest) after)
      | none => x :: pattern.removePlaced rest
termination_by placed => placed.length
decreasing_by
  · have shorter : after.length < ((x :: rest).map Prod.fst).length :=
      pattern.shorter (by assumption)
    rw [List.length_map] at shorter
    exact Nat.lt_of_le_of_lt (length_behind_le _ _) shorter
  · simp

theorem fst_removePlaced (persistent : pattern.Persistent) (placed : List (Char × Nat)) :
    (pattern.removePlaced placed).map Prod.fst = pattern.removeAll (placed.map Prod.fst) := by
  fun_induction removePlaced pattern placed with
  | case1 => rw [List.map_nil, removeAll_nil]
  | case2 x rest after found restIH =>
      obtain ⟨_, split, _⟩ := persistent.takes found
      rw [restIH, (fst_taken_behind split).2, List.map_cons, removeAll_cons_of_some found]
  | case3 x rest missing restIH =>
      rw [List.map_cons, List.map_cons, removeAll_cons_of_none missing, restIH]

theorem removePlaced_sublist (placed : List (Char × Nat)) :
    pattern.removePlaced placed <+ placed := by
  fun_induction removePlaced pattern placed with
  | case1 => exact List.Sublist.slnil
  | case2 x rest after found restIH => exact restIH.trans (List.drop_sublist _ _)
  | case3 x rest missing restIH => exact restIH.cons_cons x

/-- Nothing matches at a character that is kept. -/
theorem missing_of_mem_removePlaced {placed : List (Char × Nat)} {x : Char × Nat}
    (member : x ∈ pattern.removePlaced placed) : ∃ front following,
      placed = front ++ x :: following ∧ pattern.after? ((x :: following).map Prod.fst) = none := by
  fun_induction removePlaced pattern placed with
  | case1 => cases member
  | case2 y rest after found restIH =>
      obtain ⟨front, following, split, missing⟩ := restIH member
      refine ⟨taken (y :: rest) after ++ front, following, ?_, missing⟩
      rw [List.append_assoc, ← split, taken_append_behind]
  | case3 y rest missing restIH =>
      rcases List.mem_cons.mp member with rfl | later
      · exact ⟨[], rest, rfl, missing⟩
      · obtain ⟨front, following, split, unmatched⟩ := restIH later
        exact ⟨y :: front, following, by rw [split, List.cons_append], unmatched⟩

theorem not_consecutive_of_match {placed part : List (Char × Nat)} (increasing : Increasing placed)
    (remains : part <+ pattern.removePlaced placed)
    (isMatch : ∀ rest, (pattern.after? (part.map Prod.fst ++ rest)).isSome) :
    ¬ Consecutive part := by
  intro consecutive
  cases part with
  | nil =>
      have nothing := isMatch []
      rw [List.map_nil, List.append_nil, after?_nil] at nothing
      contradiction
  | cons x part =>
      obtain ⟨front, following, split, missing⟩ :=
        missing_of_mem_removePlaced (remains.subset List.mem_cons_self)
      have whole := remains.trans (removePlaced_sublist placed)
      rw [split] at increasing whole
      obtain ⟨after, rfl⟩ := prefix_following increasing consecutive whole
      have found := isMatch (after.map Prod.fst)
      rw [← List.map_append, List.cons_append, missing] at found
      contradiction

/-! ## Several patterns one after the other -/

def removeEach (patterns : List Pattern) (text : List Char) : List Char :=
  patterns.foldl (fun text pattern => pattern.removeAll text) text

def removeEachPlaced (patterns : List Pattern) (placed : List (Char × Nat)) : List (Char × Nat) :=
  patterns.foldl (fun placed pattern => pattern.removePlaced placed) placed

theorem removeEachPlaced_sublist (patterns : List Pattern) (placed : List (Char × Nat)) :
    removeEachPlaced patterns placed <+ placed := by
  induction patterns generalizing placed with
  | nil => exact List.Sublist.refl placed
  | cons pattern rest restIH => exact (restIH _).trans (removePlaced_sublist placed)

theorem fst_removeEachPlaced {patterns : List Pattern}
    (persistent : ∀ pattern ∈ patterns, pattern.Persistent) (placed : List (Char × Nat)) :
    (removeEachPlaced patterns placed).map Prod.fst =
      removeEach patterns (placed.map Prod.fst) := by
  induction patterns generalizing placed with
  | nil => rfl
  | cons pattern rest restIH =>
      obtain ⟨here, later⟩ := List.forall_mem_cons.mp persistent
      rw [removeEachPlaced, List.foldl_cons, removeEach, List.foldl_cons, ← fst_removePlaced here]
      exact restIH later _

theorem removeEach_eq_self {patterns : List Pattern}
    (nowhere : ∀ pattern ∈ patterns, ∀ rest, rest <:+ text → pattern.after? rest = none) :
    removeEach patterns text = text := by
  induction patterns with
  | nil => rfl
  | cons pattern rest restIH =>
      obtain ⟨here, later⟩ := List.forall_mem_cons.mp nowhere
      rw [removeEach, List.foldl_cons, removeAll_eq_self here]
      exact restIH later

theorem not_consecutive_of_mem {patterns : List Pattern} {placed part : List (Char × Nat)}
    (increasing : Increasing placed) (remains : part <+ removeEachPlaced patterns placed)
    (member : pattern ∈ patterns)
    (isMatch : ∀ rest, (pattern.after? (part.map Prod.fst ++ rest)).isSome) :
    ¬ Consecutive part := by
  induction patterns generalizing placed with
  | nil => cases member
  | cons first rest restIH =>
      rcases List.mem_cons.mp member with rfl | later
      · exact not_consecutive_of_match increasing
          (remains.trans (removeEachPlaced_sublist rest _)) isMatch
      · exact restIH (increasing.sublist (removePlaced_sublist placed)) remains later

end Pattern

/-- Removing all matches of one pattern after the other. -/
def Stripper.ofPatterns (patterns : List Pattern)
    (persistent : ∀ pattern ∈ patterns, pattern.Persistent) : Stripper where
  strip := Pattern.removeEach patterns
  stripPlaced := Pattern.removeEachPlaced patterns
  Finds _ part after := ∃ pattern ∈ patterns, pattern.after? (part ++ after) = some after
  fst_stripPlaced := Pattern.fst_removeEachPlaced persistent
  stripPlaced_sublist := Pattern.removeEachPlaced_sublist patterns
  eq_self_of_not_finds {text} nothing := by
    refine Pattern.removeEach_eq_self fun pattern member rest isSuffix => ?_
    cases found : pattern.after? rest with
    | none => rfl
    | some after =>
        obtain ⟨taken, rfl, _⟩ := (persistent pattern member).takes found
        obtain ⟨before, rfl⟩ := isSuffix
        exact absurd ⟨pattern, member, found⟩
          (nothing before taken after (List.append_assoc ..).symm)
  apart {placed before part after} increasing whole found := by
    obtain ⟨pattern, member, found⟩ := found
    obtain ⟨taken, split, isMatch⟩ := (persistent pattern member).takes found
    rw [← List.append_cancel_right split] at isMatch
    refine Pattern.not_consecutive_of_mem increasing ?_ member isMatch
    rw [whole, List.append_assoc]
    exact (List.sublist_append_left part after).trans (List.sublist_append_right before _)

end Stencil.Markup
