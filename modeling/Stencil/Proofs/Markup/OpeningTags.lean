import Stencil.Proofs.Markup.EventAttributes

namespace Stencil.Markup

open Pattern Unicode
open scoped List

/-! Removing the event attributes from all tags of a text.

Tags open and close at the same places before and after.  So an attribute that is found in what is
left stands in a tag of the text, and was looked for there at the first of its characters.
-/

/-- The start of a tag, up to the white space behind its name, whatever follows. -/
def OpensTag (head : List Char) : Prop :=
  ∀ rest, attributeTagHead.after? (head ++ rest) = some rest

/-- A tag in front of a text: its start, and what stands inside up to the closing bracket. -/
structure IsOpenTag (head inside rest : List Char) : Prop where
  opens : OpensTag head
  within : ∀ c ∈ inside, isTagEnd c = false
  closes : ∀ c ∈ rest.head?, isTagEnd c = true

theorem not_bracket {test : Char → Bool} {c : Char} (passes : test c = true)
    (less : test '<' = false) (greater : test '>' = false) : c ≠ '<' ∧ isTagEnd c = false := by
  rw [isTagEnd, decide_eq_false_iff_not]
  constructor
  all_goals
    rintro rfl
    simp_all

/-- Only the first character of a tag's start is a bracket, and the last is white space. -/
theorem OpensTag.shape {head : List Char} (opens : OpensTag head) : ∃ name space,
    head = '<' :: (name ++ [space]) ∧ isWhiteSpace space = true ∧
      ∀ c ∈ name ++ [space], c ≠ '<' ∧ isTagEnd c = false := by
  have found := opens []
  rw [List.append_nil] at found
  obtain ⟨opened, bracketFound, nameFound⟩ := Option.bind_eq_some_iff.mp found
  obtain ⟨named, firstFound, spaceFound⟩ := Option.bind_eq_some_iff.mp nameFound
  obtain ⟨bracket, rfl, isBracket⟩ := after?_char_eq_some bracketFound
  obtain ⟨first, rfl, isLetter⟩ := after?_char_eq_some firstFound
  rw [after?_skipping] at spaceFound
  obtain ⟨space, split, isSpace⟩ := after?_char_eq_some spaceFound
  obtain rfl : bracket = '<' := of_decide_eq_true isBracket
  refine ⟨first :: named.takeWhile fun c => isNameLetter c || c.isDigit, space, ?_, isSpace, ?_⟩
  · rw [List.cons_append, ← split, List.takeWhile_append_dropWhile]
  · intro c member
    rcases List.mem_append.mp member with inName | isLast
    · rcases List.mem_cons.mp inName with rfl | later
      · exact not_bracket isLetter (by decide) (by decide)
      · exact not_bracket (List.mem_takeWhile_imp later) (by decide) (by decide)
    · obtain rfl := List.mem_singleton.mp isLast
      exact not_bracket isSpace (by decide) (by decide)

theorem OpensTag.not_isTagEnd {head : List Char} (opens : OpensTag head) {c : Char}
    (member : c ∈ head) : isTagEnd c = false := by
  obtain ⟨name, space, rfl, _, plain⟩ := opens.shape
  rcases List.mem_cons.mp member with rfl | later
  · rfl
  · exact (plain c later).2

theorem OpensTag.endsName_getLast? {head : List Char} (opens : OpensTag head)
    (outside : List Char) : endsName (outside ++ head).getLast? = true := by
  obtain ⟨name, space, rfl, isSpace, _⟩ := opens.shape
  rw [← List.cons_append, ← List.append_assoc, List.getLast?_concat]
  exact endsName_of_isWhiteSpace isSpace

/-- No other tag opens in the start of a tag. -/
theorem OpensTag.eq_nil {start outside head rest : List Char} (startOpens : OpensTag start)
    (opens : OpensTag head) (split : start = outside ++ head ++ rest) : rest = [] := by
  cases outside with
  | nil =>
      have found := startOpens []
      rw [split, List.nil_append, List.append_assoc, opens, Option.some.injEq] at found
      exact (List.append_eq_nil_iff.mp found).1
  | cons first outside =>
      obtain ⟨_, _, rfl, _, plain⟩ := startOpens.shape
      obtain ⟨name, space, rfl, _⟩ := opens.shape
      obtain ⟨_, later⟩ := List.cons.inj split
      exact absurd rfl (plain '<' (by rw [later]; simp)).1

theorem OpensTag.not_element {start outside head inside more : List (Char × Nat)} {x : Char × Nat}
    (startOpens : OpensTag (start.map Prod.fst)) (opens : OpensTag (head.map Prod.fst)) :
    start ≠ outside ++ head ++ inside ++ x :: more := by
  intro split
  have letters := congrArg (List.map Prod.fst) split
  rw [List.append_assoc, List.map_append, List.map_append] at letters
  exact List.append_ne_nil_of_right_ne_nil _ (List.cons_ne_nil _ _)
    (List.map_eq_nil_iff.mp (startOpens.eq_nil opens letters))

namespace IsOpenTag

variable {head inside rest : List Char}

theorem all (tag : IsOpenTag head inside rest) : ∀ c ∈ inside, (!isTagEnd c) = true :=
  fun c member => congrArg not (tag.within c member)

theorem stops (tag : IsOpenTag head inside rest) : Text.Stops (fun c => !isTagEnd c) rest :=
  fun c isFirst => congrArg not (tag.closes c isFirst)

theorem takeWhile_eq (tag : IsOpenTag head inside rest) :
    ((inside ++ rest).takeWhile fun c => !isTagEnd c) = inside :=
  Text.takeWhile_append_stops tag.all tag.stops

theorem dropWhile_eq (tag : IsOpenTag head inside rest) :
    ((inside ++ rest).dropWhile fun c => !isTagEnd c) = rest :=
  Text.dropWhile_append_stops tag.all tag.stops

theorem of_after? {text inside : List Char} (found : attributeTagHead.after? text = some inside) :
    ∃ head, text = head ++ inside ∧ IsOpenTag head (inside.takeWhile fun c => !isTagEnd c)
      (inside.dropWhile fun c => !isTagEnd c) := by
  have exact : attributeTagHead.Exact :=
    (exact_char _).seq ((exact_char _).seq (exact_char _).skipping)
  obtain ⟨head, split, opens⟩ := exact.takes found
  refine ⟨head, split, opens, fun c member => ?_, fun c first => ?_⟩
  · have passes := List.mem_takeWhile_imp member
    exact (Bool.not_eq_true' _).mp passes
  · exact (Bool.not_eq_false' _).mp (Text.stops_dropWhile (fun c => !isTagEnd c) inside c first)

end IsOpenTag

@[simp] theorem stripEvents_nil : stripEvents [] = [] := by
  rw [stripEvents]

theorem stripEvents_of_isOpenTag {head inside rest : List Char}
    (tag : IsOpenTag head inside rest) : stripEvents (head ++ inside ++ rest) =
      head ++ removeEvents none inside ++ stripEvents rest := by
  obtain ⟨name, space, split, _⟩ := tag.opens.shape
  obtain ⟨first, more, rfl⟩ : ∃ first more, head = first :: more := ⟨_, _, split⟩
  have start := tag.opens (inside ++ rest)
  have front : (first :: (more ++ (inside ++ rest))).take
      ((first :: (more ++ (inside ++ rest))).length - (inside ++ rest).length) = first :: more := by
    rw [← List.cons_append, List.length_append, Nat.add_sub_cancel, List.take_left]
  rw [List.append_assoc, List.cons_append, stripEvents]
  split
  · next other =>
      cases start.symm.trans other
      rw [front, tag.takeWhile_eq, tag.dropWhile_eq]
  · next missing => cases start.symm.trans missing

theorem stripEvents_cons_of_none {c : Char} {rest : List Char}
    (missing : attributeTagHead.after? (c :: rest) = none) :
    stripEvents (c :: rest) = c :: stripEvents rest := by
  rw [stripEvents]
  split
  · next found => cases missing.symm.trans found
  · rfl

/-- The removal of event attributes from all tags, with the places of the characters. -/
def stripEventsPlaced : List (Char × Nat) → List (Char × Nat)
  | [] => []
  | x :: rest =>
      match _found : attributeTagHead.after? ((x :: rest).map Prod.fst) with
      | some inside =>
          taken (x :: rest) inside ++
            removeEventsPlaced none
              ((behind (x :: rest) inside).takeWhile fun y => !isTagEnd y.1) ++
            stripEventsPlaced ((behind (x :: rest) inside).dropWhile fun y => !isTagEnd y.1)
      | none => x :: stripEventsPlaced rest
termination_by placed => placed.length
decreasing_by
  · have shorter : inside.length < ((x :: rest).map Prod.fst).length :=
      attributeTagHead.shorter (by assumption)
    rw [List.length_map] at shorter
    exact Nat.lt_of_le_of_lt
      ((List.dropWhile_sublist _).length_le.trans (length_behind_le _ _)) shorter
  · simp

/-- Characters and what is left of them: tags lose the attributes inside, all others stay. -/
inductive EventsStripped : (placed left : List (Char × Nat)) → Prop where
  | nil : EventsStripped [] []
  | tag {head inside rest left : List (Char × Nat)} :
      IsOpenTag (head.map Prod.fst) (inside.map Prod.fst) (rest.map Prod.fst) →
      EventsStripped rest left →
      EventsStripped (head ++ inside ++ rest) (head ++ removeEventsPlaced none inside ++ left)
  | keep {rest left : List (Char × Nat)} (x : Char × Nat) :
      attributeTagHead.after? ((x :: rest).map Prod.fst) = none → EventsStripped rest left →
      EventsStripped (x :: rest) (x :: left)

theorem eventsStripped (placed : List (Char × Nat)) :
    EventsStripped placed (stripEventsPlaced placed) := by
  fun_induction stripEventsPlaced placed with
  | case1 => exact .nil
  | case2 x rest inside found restIH =>
      obtain ⟨head, split, isTag⟩ := IsOpenTag.of_after? found
      obtain ⟨headLetters, insideLetters⟩ := fst_taken_behind split
      rw [← headLetters, ← insideLetters, List.takeWhile_map, List.dropWhile_map, insideLetters]
        at isTag
      have whole := EventsStripped.tag isTag restIH
      rwa [List.append_assoc, Function.comp_def, List.takeWhile_append_dropWhile,
        taken_append_behind] at whole
  | case3 x rest missing restIH => exact .keep x missing restIH

theorem endsName_append {front back : List Char} (frontEnds : endsName front.getLast? = true)
    (backEnds : endsName back.getLast? = true) : endsName (front ++ back).getLast? = true := by
  cases last : back.getLast? with
  | none => rwa [List.getLast?_append, last, Option.none_or]
  | some c => rwa [List.getLast?_append, last, Option.some_or, ← last]

theorem endsName_of_append {front back : List Char}
    (ends : endsName (front ++ back).getLast? = true) : endsName back.getLast? = true := by
  rw [List.getLast?_append] at ends
  cases last : back.getLast? with
  | none => rfl
  | some c => rwa [last, Option.some_or] at ends

theorem IsOpenTag.missing_inside {start kept rest front back : List (Char × Nat)} {x : Char × Nat}
    (isTag : IsOpenTag (start.map Prod.fst) (kept.map Prod.fst) (rest.map Prod.fst))
    (output : removeEventsPlaced none kept = front ++ x :: back)
    (free : endsName (front.map Prod.fst).getLast? = true ∨ isWhiteSpace x.1 = true) :
    ∃ skipped following, start ++ kept ++ rest = skipped ++ x :: following ∧
      eventAttribute.after? (((x :: following).map Prod.fst).takeWhile fun c => !isTagEnd c) =
        none := by
  obtain ⟨skipped, following, rfl, unmatched⟩ :=
    missing_of_removeEventsPlaced output (fun _ => .inl (.inl rfl)) free
  have within : ∀ c ∈ (x :: following).map Prod.fst, (!isTagEnd c) = true := fun c member =>
    isTag.all c (by rw [List.map_append]; exact List.mem_append_right _ member)
  refine ⟨start ++ skipped, following ++ rest, by simp, ?_⟩
  rw [← List.cons_append, List.map_append, Text.takeWhile_append_stops within isTag.stops]
  exact unmatched

/-- A list that is split at one of its elements and somewhere else. -/
theorem split_at_element {α : Type} {x : α} {front back left right : List α}
    (split : front ++ x :: back = left ++ right) :
    (∃ more, left = front ++ x :: more ∧ back = more ++ right) ∨
      ∃ more, front = left ++ more ∧ right = more ++ x :: back := by
  rcases List.append_eq_append_iff.mp split with ⟨more, rfl, behind⟩ | ⟨more, rfl, rest⟩
  · cases more with
    | nil => exact .inr ⟨[], by rw [List.append_nil, List.append_nil], behind.symm⟩
    | cons y more =>
        obtain ⟨rfl, rfl⟩ := List.cons.inj behind
        exact .inl ⟨more, rfl, rfl⟩
  · exact .inr ⟨more, rfl, rest⟩

namespace EventsStripped

variable {placed left : List (Char × Nat)}

theorem sublist (stripped : EventsStripped placed left) : left <+ placed := by
  induction stripped with
  | nil => exact List.Sublist.slnil
  | tag _ _ restIH =>
      exact ((List.Sublist.refl _).append (removeEventsPlaced_sublist none _)).append restIH
  | keep x _ _ restIH => exact restIH.cons_cons x

theorem head?_eq (stripped : EventsStripped placed left) : left.head? = placed.head? := by
  cases stripped with
  | nil => rfl
  | tag isTag _ =>
      obtain ⟨_, _, letters, _⟩ := isTag.opens.shape
      obtain ⟨x, more, rfl, _⟩ := List.map_eq_cons_iff.mp letters
      rfl
  | keep x _ _ => rfl

theorem fst_eq (stripped : EventsStripped placed left) :
    left.map Prod.fst = stripEvents (placed.map Prod.fst) := by
  induction stripped with
  | nil => exact stripEvents_nil.symm
  | tag isTag _ restIH =>
      rw [List.map_append, List.map_append, List.map_append, List.map_append,
        fst_removeEventsPlaced, restIH, stripEvents_of_isOpenTag isTag]
  | keep x missing _ restIH =>
      rw [List.map_cons, List.map_cons, stripEvents_cons_of_none missing, restIH]

/-- What is left of a text begins as the text does, up to the next opening bracket. -/
theorem front_eq {front more : List (Char × Nat)} (stripped : EventsStripped placed left)
    (output : left = front ++ more) (plain : ∀ x ∈ front, x.1 ≠ '<') : front <+: placed := by
  induction stripped generalizing front with
  | nil => rw [(List.append_eq_nil_iff.mp output.symm).1]
  | tag isTag _ _ =>
      cases front with
      | nil => exact List.nil_prefix
      | cons y front =>
          obtain ⟨_, _, letters, _⟩ := isTag.opens.shape
          obtain ⟨x, body, rfl, isBracket, _⟩ := List.map_eq_cons_iff.mp letters
          obtain ⟨rfl, _⟩ := List.cons.inj output
          exact absurd isBracket (plain x List.mem_cons_self)
  | keep x _ _ restIH =>
      cases front with
      | nil => exact List.nil_prefix
      | cons y front =>
          obtain ⟨rfl, later⟩ := List.cons.inj output
          exact List.cons_prefix_cons.mpr ⟨rfl, restIH later (List.forall_mem_cons.mp plain).2⟩

/-- No event attribute is at a character that stands, in what is left, in a tag and where a name
may begin. -/
theorem missing {outside head inside back : List (Char × Nat)} {x : Char × Nat}
    (stripped : EventsStripped placed left)
    (output : left = outside ++ head ++ inside ++ x :: back) (opens : OpensTag (head.map Prod.fst))
    (within : ∀ y ∈ inside, isTagEnd y.1 = false) (xWithin : isTagEnd x.1 = false)
    (free : endsName (inside.map Prod.fst).getLast? = true ∨ isWhiteSpace x.1 = true) :
    ∃ skipped following, placed = skipped ++ x :: following ∧
      eventAttribute.after? (((x :: following).map Prod.fst).takeWhile fun c => !isTagEnd c) =
        none := by
  induction stripped generalizing outside with
  | nil => simp at output
  | @tag start kept rest left isTag stripped restIH =>
      rw [List.append_assoc] at output
      rcases split_at_element output.symm with ⟨_, startSplit, _⟩ | ⟨front, beforeSplit, later⟩
      · exact absurd startSplit (isTag.opens.not_element opens)
      rcases split_at_element later.symm with ⟨_, keptSplit, _⟩ | ⟨gap, rfl, leftSplit⟩
      · refine isTag.missing_inside keptSplit (free.imp_left fun ends => ?_)
        refine @endsName_of_append (start.map Prod.fst) _ ?_
        rw [← List.map_append, ← beforeSplit, List.map_append, List.map_append]
        exact endsName_append (opens.endsName_getLast? _) ends
      · have closes : ∀ y more, left = y :: more → isTagEnd y.1 = true := fun y more first =>
          isTag.closes y.1 (by rw [List.head?_map, ← stripped.head?_eq, first]; rfl)
        cases gap with
        | nil => cases xWithin.symm.trans (closes x back leftSplit)
        | cons z gap =>
            -- The closing bracket is no part of the tag that is found, so that one begins behind it.
            have around : (start ++ removeEventsPlaced none kept) ++ z :: gap =
                outside ++ (head ++ inside) := by
              rw [List.append_assoc, ← List.append_assoc outside, beforeSplit]
            have tagWithin : ∀ y ∈ head ++ inside, isTagEnd y.1 = false :=
              List.forall_mem_append.mpr
                ⟨fun y member => opens.not_isTagEnd (List.mem_map_of_mem member), within⟩
            rcases split_at_element around with ⟨between, rfl, rfl⟩ | ⟨_, _, inTag⟩
            · obtain ⟨skipped, following, rfl, unmatched⟩ :=
                @restIH (z :: between) (by simp [leftSplit])
              exact ⟨start ++ kept ++ skipped, following, by simp, unmatched⟩
            · cases (closes z _ leftSplit).symm.trans (tagWithin z (by simp [inTag]))
  | @keep rest left y noHead stripped restIH =>
      cases outside with
      | nil =>
          obtain ⟨name, space, letters, isSpace, plain⟩ := opens.shape
          obtain ⟨bracket, body, rfl, isBracket, bodyLetters⟩ := List.map_eq_cons_iff.mp letters
          rw [List.nil_append, List.cons_append, List.cons_append] at output
          obtain ⟨rfl, later⟩ := List.cons.inj output
          rw [List.append_assoc] at later
          obtain ⟨more, rfl⟩ := stripped.front_eq later fun z member =>
            (plain z.1 (bodyLetters ▸ List.mem_map_of_mem member)).1
          have found := opens (more.map Prod.fst)
          rw [← List.map_append, List.cons_append, noHead] at found
          cases found
      | cons z outside =>
          obtain ⟨rfl, later⟩ := List.cons.inj output
          obtain ⟨skipped, following, split, unmatched⟩ := restIH later
          exact ⟨y :: skipped, following, by rw [split, List.cons_append], unmatched⟩

end EventsStripped

/-! ## Event attributes in a text -/

/-- A part of a text is an event attribute in an opening tag.  The tag begins somewhere in front of
it, and behind what is inside that tag so far the attribute can be read off. -/
def FindsEvent (before part after : List Char) : Prop :=
  ∃ outside head inside left rest, before = outside ++ head ++ inside ∧ after = left ++ rest ∧
    IsOpenTag head (inside ++ part ++ left) rest ∧
    eventAfter? inside.getLast? (part ++ left) = some left

theorem FindsEvent.prepend {before part after : List Char} (front : List Char)
    (found : FindsEvent before part after) : FindsEvent (front ++ before) part after := by
  obtain ⟨outside, head, inside, left, rest, rfl, rfl, isTag, isEvent⟩ := found
  exact ⟨front ++ outside, head, inside, left, rest, by simp, rfl, isTag, isEvent⟩

theorem stripEvents_eq_self {text : List Char}
    (nothing : ∀ before part after, text = before ++ part ++ after →
      ¬ FindsEvent before part after) : stripEvents text = text := by
  fun_induction stripEvents text with
  | case1 => rfl
  | case2 c rest inside found restIH =>
      obtain ⟨head, split, isTag⟩ := IsOpenTag.of_after? found
      have whole := List.takeWhile_append_dropWhile (p := fun c => !isTagEnd c) (l := inside)
      rw [split] at nothing ⊢
      rw [List.length_append, Nat.add_sub_cancel, List.take_left]
      generalize inside.takeWhile (fun c => !isTagEnd c) = within at *
      generalize inside.dropWhile (fun c => !isTagEnd c) = outside at *
      subst whole
      rw [restIH, removeEvents_eq_self, List.append_assoc]
      · intro front back withinSplit
        cases isEvent : eventAfter? (front.getLast?.or none) back with
        | none => rfl
        | some left =>
            obtain ⟨part, rfl, _⟩ := persistent_eventAttribute.takes (eventAfter?_eq_some isEvent).2
            rw [Option.or_none] at isEvent
            rw [withinSplit, ← List.append_assoc] at isTag
            exact absurd ⟨[], head, front, left, outside, rfl, rfl, isTag, isEvent⟩
              (nothing (head ++ front) part (left ++ outside) (by simp [withinSplit]))
      · intro before part after outsideSplit isEvent
        exact nothing (head ++ within ++ before) part after (by simp [outsideSplit])
          (isEvent.prepend (head ++ within))
  | case3 c rest missing restIH =>
      rw [restIH fun before part after split isEvent =>
        nothing (c :: before) part after (by rw [split]; rfl) (isEvent.prepend [c])]

theorem not_consecutive_of_findsEvent {placed before part after : List (Char × Nat)}
    (increasing : Increasing placed) (output : stripEventsPlaced placed = before ++ part ++ after)
    (found : FindsEvent (before.map Prod.fst) (part.map Prod.fst) (after.map Prod.fst)) :
    ¬ Consecutive part := by
  intro consecutive
  obtain ⟨outside, head, inside, left, rest, beforeLetters, _, isTag, isEvent⟩ := found
  obtain ⟨front, insidePlaced, rfl, frontLetters, rfl⟩ := List.map_eq_append_iff.mp beforeLetters
  obtain ⟨outsidePlaced, headPlaced, rfl, rfl, rfl⟩ := List.map_eq_append_iff.mp frontLetters
  obtain ⟨starts, isMatch⟩ := eventAfter?_eq_some isEvent
  obtain ⟨matched, same, matchesAlways⟩ := persistent_eventAttribute.takes isMatch
  rw [← List.append_cancel_right same] at matchesAlways
  cases part with
  | nil => exact taken_ne_nil isMatch rfl
  | cons x part =>
      have within : ∀ y ∈ insidePlaced ++ x :: part, isTagEnd y.1 = false := fun y member =>
        isTag.within y.1 (List.mem_append_left _
          (by rw [← List.map_append]; exact List.mem_map_of_mem member))
      obtain ⟨insideWithin, partWithin⟩ := List.forall_mem_append.mp within
      obtain ⟨skipped, following, rfl, missing⟩ := (eventsStripped placed).missing
        (output.trans (List.append_assoc ..)) isTag.opens insideWithin
        (partWithin x List.mem_cons_self) (Bool.or_eq_true _ _ ▸ starts)
      have kept : x :: part <+ skipped ++ x :: following := by
        refine List.Sublist.trans ?_ (eventsStripped _).sublist
        rw [output, List.append_assoc]
        exact (List.sublist_append_left _ _).trans (List.sublist_append_right _ _)
      obtain ⟨more, rfl⟩ := prefix_following increasing consecutive kept
      have found := matchesAlways ((more.map Prod.fst).takeWhile fun c => !isTagEnd c)
      rw [← List.takeWhile_append_of_pos, ← List.map_append, List.cons_append, missing] at found
      · cases found
      · exact List.forall_mem_map.mpr fun y member => congrArg not (partWithin y member)

def Stripper.events : Stripper where
  strip := stripEvents
  stripPlaced := stripEventsPlaced
  Finds := FindsEvent
  fst_stripPlaced placed := (eventsStripped placed).fst_eq
  stripPlaced_sublist placed := (eventsStripped placed).sublist
  eq_self_of_not_finds := stripEvents_eq_self
  apart := not_consecutive_of_findsEvent

end Stencil.Markup
