import Stencil.Calendar.Format

namespace Stencil.DateFormat

/-! The grammar of date formats.

A text is a date format just if it is a sequence of conversions and of characters that stand for
themselves.  No conversion begins another one, so a format can be read up to any place where one of
its conversions ends.
-/

/-- The conversions of several characters, without the percent sign. -/
def longConversions : List (List Char × DateItem) :=
  [ ([':', ':', ':', 'z'], .literal "+00".toList)
  , ([':', ':', 'z'], .literal "+00:00:00".toList)
  , ([':', 'z'], .literal "+00:00".toList)
  , (['#', 'z'], .looseOffset)
  , (['.', 'f'], .literal [])
  , (['.', '3', 'f'], .literal ".000".toList)
  , (['.', '6', 'f'], .literal ".000000".toList)
  , (['.', '9', 'f'], .literal ".000000000".toList)
  , (['3', 'f'], .literal "000".toList)
  , (['6', 'f'], .literal "000000".toList)
  , (['9', 'f'], .literal "000000000".toList) ]

variable {source rest : List Char} {items format : DateFormat} {item : DateItem} {c mark : Char}

theorem longConversion?_of_mem {body : List Char} (member : (body, item) ∈ longConversions)
    (rest : List Char) : longConversion? (body ++ rest) = some (item, rest) := by
  simp only [longConversions, List.mem_cons, Prod.mk.injEq, List.not_mem_nil, or_false] at member
  rcases member with ⟨rfl, rfl⟩ | ⟨rfl, rfl⟩ | ⟨rfl, rfl⟩ | ⟨rfl, rfl⟩ | ⟨rfl, rfl⟩ | ⟨rfl, rfl⟩ |
    ⟨rfl, rfl⟩ | ⟨rfl, rfl⟩ | ⟨rfl, rfl⟩ | ⟨rfl, rfl⟩ | ⟨rfl, rfl⟩ <;> rfl

theorem mem_of_longConversion? {text : List Char}
    (found : longConversion? text = some (item, rest)) :
    ∃ body, (body, item) ∈ longConversions ∧ text = body ++ rest := by
  unfold longConversion? at found
  split at found <;> cases found <;> simp [longConversions]

/-- No conversion of several characters begins with a letter or with a mark for padding. -/
theorem longConversion?_cons_eq_none
    (short : (number? c).isSome ∨ (items? c).isSome ∨ (paddingMark? c).isSome)
    (rest : List Char) : longConversion? (c :: rest) = none := by
  cases found : longConversion? (c :: rest) with
  | none => rfl
  | some result =>
      obtain ⟨body, member, whole⟩ := mem_of_longConversion? found
      have others : (longConversions.all fun entry => entry.1.head?.all fun c =>
          (number? c).isNone && (items? c).isNone && (paddingMark? c).isNone) = true := by
        decide
      cases body with
      | nil => simp [longConversions] at member
      | cons first body =>
          cases whole
          have here := List.all_eq_true.mp others _ member
          rcases short with number | items | mark <;> simp_all

theorem number?_of_items? (found : items? c = some format) : number? c = none := by
  unfold items? at found
  split at found <;> first | rfl | cases found

theorem paddingMark?_eq_none (letter : (number? c).isSome ∨ (items? c).isSome) :
    paddingMark? c = none := by
  unfold paddingMark?
  split <;> first | rfl | simp [number?, items?] at letter

/-- One conversion, or one character that stands for itself, with what it is read as. -/
inductive Conversion : List Char → DateFormat → Prop
  | plain {c : Char} (noPercent : c ≠ '%') : Conversion [c] [.literal [c]]
  | long {body : List Char} {item : DateItem} (member : (body, item) ∈ longConversions) :
      Conversion ('%' :: body) [item]
  | marked {mark c : Char} {field : DateField} {own padding : Padding}
      (marks : paddingMark? mark = some padding) (found : number? c = some (field, own)) :
      Conversion ['%', mark, c] [.number field padding]
  | number {c : Char} {field : DateField} {padding : Padding}
      (found : number? c = some (field, padding)) : Conversion ['%', c] [.number field padding]
  | items {c : Char} {format : DateFormat} (found : items? c = some format) :
      Conversion ['%', c] format

/-- A text made of conversions, with what they are read as one after the other. -/
inductive Written : List Char → DateFormat → Prop
  | nil : Written [] []
  | cons {source rest : List Char} {items format : DateFormat} (first : Conversion source items)
      (later : Written rest format) : Written (source ++ rest) (items ++ format)

theorem parse?_long {body : List Char} (found : longConversion? body = some (item, rest)) :
    parse? ('%' :: body) = (parse? rest).map (item :: ·) := by
  rw [parse?]
  split
  · next other after otherFound =>
      rw [found] at otherFound
      cases otherFound
      rfl
  · next none =>
      rw [found] at none
      cases none

theorem parse?_marked {field : DateField} {own padding : Padding}
    (marks : paddingMark? mark = some padding) (found : number? c = some (field, own)) :
    parse? ('%' :: mark :: c :: rest) = (parse? rest).map (.number field padding :: ·) := by
  have short : longConversion? (mark :: c :: rest) = none :=
    longConversion?_cons_eq_none (.inr (.inr (by rw [marks]; rfl))) _
  rw [parse?]
  split
  · simp_all only [reduceCtorEq]
  · simp only [marks, found]
    cases parse? rest <;> rfl

theorem parse?_number {field : DateField} {padding : Padding}
    (found : number? c = some (field, padding)) :
    parse? ('%' :: c :: rest) = (parse? rest).map (.number field padding :: ·) := by
  have letter : (number? c).isSome := by rw [found]; rfl
  have short : longConversion? (c :: rest) = none :=
    longConversion?_cons_eq_none (.inl letter) rest
  rw [parse?]
  split
  · simp_all only [reduceCtorEq]
  · simp only [paddingMark?_eq_none (.inl letter), found]

theorem parse?_items (found : items? c = some items) :
    parse? ('%' :: c :: rest) = (parse? rest).map (items ++ ·) := by
  have letter : (items? c).isSome := by rw [found]; rfl
  have short : longConversion? (c :: rest) = none :=
    longConversion?_cons_eq_none (.inr (.inl letter)) rest
  rw [parse?]
  split
  · simp_all only [reduceCtorEq]
  · simp only [paddingMark?_eq_none (.inr letter), number?_of_items? found, found]

theorem Conversion.parse?_append (conversion : Conversion source items) (rest : List Char) :
    parse? (source ++ rest) = (parse? rest).map (items ++ ·) := by
  cases conversion with
  | plain noPercent =>
      rw [List.singleton_append, parse?]
      · rfl
      · exact noPercent
  | long member => exact parse?_long (longConversion?_of_mem member rest)
  | marked marks found => exact parse?_marked marks found
  | number found => exact parse?_number found
  | items found => exact parse?_items found

theorem Written.of_parse? {text : List Char} (accepted : parse? text = some format) :
    Written text format := by
  fun_induction parse? text generalizing format with
  | case1 =>
      cases accepted
      exact .nil
  | case2 rest item after found restIH =>
      obtain ⟨later, read, rfl⟩ := Option.map_eq_some_iff.mp accepted
      obtain ⟨body, member, rfl⟩ := mem_of_longConversion? found
      exact .cons (.long member) (restIH read)
  | case3 => cases accepted
  | case4 => cases accepted
  | case5 mark padding c rest _ marks restIH =>
      obtain ⟨⟨field, own⟩, found, accepted⟩ := Option.bind_eq_some_iff.mp accepted
      obtain ⟨later, read, same⟩ := Option.bind_eq_some_iff.mp accepted
      cases same
      exact .cons (.marked marks found) (restIH read)
  | case6 c rest _ _ field padding found restIH =>
      obtain ⟨later, read, rfl⟩ := Option.map_eq_some_iff.mp accepted
      exact .cons (.number found) (restIH read)
  | case7 c rest _ _ items found _ restIH =>
      obtain ⟨later, read, rfl⟩ := Option.map_eq_some_iff.mp accepted
      exact .cons (.items found) (restIH read)
  | case8 => cases accepted
  | case9 c rest noPercent restIH =>
      obtain ⟨later, read, rfl⟩ := Option.map_eq_some_iff.mp accepted
      exact .cons (.plain noPercent) (restIH read)

/-- What comes before a place where a conversion ends is read by itself. -/
theorem Written.parse?_append (written : Written source format) (rest : List Char) :
    parse? (source ++ rest) = (parse? rest).map (format ++ ·) := by
  induction written with
  | nil => simp
  | cons first _ laterIH =>
      rw [List.append_assoc, first.parse?_append, laterIH, Option.map_map]
      simp only [Function.comp_def, List.append_assoc]

/-- A text is a date format just if it is made of conversions, and in one way only. -/
theorem parse?_eq_some_iff : parse? source = some format ↔ Written source format := by
  refine ⟨Written.of_parse?, fun written => ?_⟩
  have whole := written.parse?_append []
  rwa [List.append_nil, parse?, Option.map_some, List.append_nil] at whole

/-- The conversion `%#z` occurs in the text, at a place where a conversion begins. -/
def HasLooseOffset (source : List Char) : Prop :=
  ∃ before after, source = before ++ (['%', '#', 'z'] ++ after) ∧ (parse? before).isSome

instance (source : List Char) : Decidable (HasLooseOffset source) :=
  decidable_of_iff (((List.range (source.length + 1)).any fun place =>
      ['%', '#', 'z'].isPrefixOf (source.drop place) && (parse? (source.take place)).isSome) =
        true) <| by
    simp only [List.any_eq_true, Bool.and_eq_true, List.isPrefixOf_iff_prefix, List.mem_range]
    constructor
    · rintro ⟨place, _, ⟨after, same⟩, read⟩
      exact ⟨source.take place, after, by rw [same, List.take_append_drop], read⟩
    · rintro ⟨before, after, rfl, read⟩
      refine ⟨before.length, ?_, ?_, by rwa [List.take_left]⟩
      · rw [List.length_append]
        omega
      · rw [List.drop_left]
        exact List.prefix_append _ _

theorem Conversion.eq_of_looseOffset_mem (conversion : Conversion source items)
    (member : .looseOffset ∈ items) : source = ['%', '#', 'z'] := by
  cases conversion with
  | plain => simp at member
  | long known =>
      cases List.mem_singleton.mp member
      simp only [longConversions, List.mem_cons, Prod.mk.injEq, reduceCtorEq, and_true, and_false,
        or_false, false_or, List.not_mem_nil] at known
      rw [known]
  | marked => simp at member
  | number => simp at member
  | items found =>
      unfold items? at found
      split at found <;> cases found <;> exact absurd member (by decide)

theorem looseOffset_mem_iff (accepted : parse? source = some format) :
    .looseOffset ∈ format ↔ HasLooseOffset source := by
  constructor
  · intro member
    induction Written.of_parse? accepted with
    | nil => cases member
    | @cons first rest _ _ conversion later laterIH =>
        rcases List.mem_append.mp member with here | there
        · exact ⟨[], rest, by rw [conversion.eq_of_looseOffset_mem here]; rfl, by rw [parse?]; rfl⟩
        · obtain ⟨before, after, same, read⟩ := laterIH (parse?_eq_some_iff.mpr later) there
          refine ⟨first ++ before, after, by rw [same, List.append_assoc], ?_⟩
          rwa [conversion.parse?_append, Option.isSome_map]
  · rintro ⟨before, after, rfl, read⟩
    obtain ⟨earlier, read⟩ := Option.isSome_iff_exists.mp read
    have loose : Conversion ['%', '#', 'z'] [.looseOffset] := .long (by decide)
    rw [(Written.of_parse? read).parse?_append, loose.parse?_append, Option.map_map,
      Option.map_eq_some_iff] at accepted
    obtain ⟨later, -, rfl⟩ := accepted
    simp

-- Two percent signs are one conversion, so no offset begins at the second one.
example : HasLooseOffset "%d%#z".toList ∧ ¬ HasLooseOffset "%%#z".toList := by
  decide +kernel

end Stencil.DateFormat
