import Stencil.Proofs.Template.KeywordGrammar
import Stencil.Proofs.Template.Splitting
import Stencil.Proofs.Template.Unescaping

namespace Stencil

open Unicode

/-! Writing keywords so that they read back.

Names and parameters are written with a backslash before every special character.  Backslashes of
their own are left as they are, so the written text reads back only if no such backslash takes the
one that was put in: where a delimiter follows that ends a reader's run, their number must be even.
-/

/-- Every run of backslashes in front of one of the stops, or at the end of the text, has even
length. -/
def EvenBackslashes (stops text : List Char) : Prop :=
  ∀ before count after, text = before ++ (List.replicate count '\\' ++ after) →
    before.getLast? ≠ some '\\' → after.head? ≠ some '\\' → (∀ c ∈ after.head?, c ∈ stops) →
    count % 2 = 0

/-- The same, read off a text in front of which `count` backslashes stand. -/
def evenBackslashes (stops : List Char) : Nat → List Char → Bool
  | count, [] => count % 2 == 0
  | count, c :: rest =>
      if c = '\\' then evenBackslashes stops (count + 1) rest
      else (!stops.contains c || count % 2 == 0) && evenBackslashes stops 0 rest

theorem EvenBackslashes.read {stops before rest : List Char} {count : Nat}
    (beforeEnd : before.getLast? ≠ some '\\')
    (even : EvenBackslashes stops (before ++ (List.replicate count '\\' ++ rest))) :
    evenBackslashes stops count rest = true := by
  induction rest generalizing before count with
  | nil => simpa [evenBackslashes] using even before count [] rfl beforeEnd (by simp) (by simp)
  | cons c rest restIH =>
      by_cases backslash : c = '\\'
      · have longer : List.replicate count '\\' ++ c :: rest =
            List.replicate (count + 1) '\\' ++ rest := by
          rw [List.replicate_succ', List.append_assoc, backslash]
          rfl
        rw [longer] at even
        rw [evenBackslashes, if_pos backslash]
        exact restIH beforeEnd even
      · have split : before ++ (List.replicate count '\\' ++ c :: rest) =
            (before ++ List.replicate count '\\' ++ [c]) ++ (List.replicate 0 '\\' ++ rest) := by
          simp
        have later : evenBackslashes stops 0 rest = true := by
          rw [split] at even
          exact restIH (by simpa using backslash) even
        have here : c ∈ stops → count % 2 = 0 := by
          intro stop
          exact even before count (c :: rest) rfl beforeEnd (by simpa using backslash)
            (by simpa using stop)
        rw [evenBackslashes, if_neg backslash, later, Bool.and_true]
        by_cases stop : c ∈ stops
        · simp [here stop]
        · simp [stop]

theorem evenBackslashes_replicate (stops : List Char) (base count : Nat) (after : List Char) :
    evenBackslashes stops base (List.replicate count '\\' ++ after) =
      evenBackslashes stops (base + count) after := by
  induction count generalizing base with
  | zero => rfl
  | succ count countIH =>
      rw [List.replicate_succ, List.cons_append, evenBackslashes, if_pos rfl, countIH]
      congr 1
      omega

theorem even_of_evenBackslashes {stops after : List Char} {count : Nat}
    (read : evenBackslashes stops count after = true) (afterStart : after.head? ≠ some '\\')
    (stop : ∀ c ∈ after.head?, c ∈ stops) : count % 2 = 0 := by
  cases after with
  | nil => simpa [evenBackslashes] using read
  | cons c after =>
      have notBackslash : c ≠ '\\' := by simpa using afterStart
      have isStop : c ∈ stops := stop c rfl
      simp only [evenBackslashes, if_neg notBackslash, Bool.and_eq_true] at read
      simpa [isStop] using read.1

theorem EvenBackslashes.of_read {stops text : List Char}
    (read : evenBackslashes stops 0 text = true) : EvenBackslashes stops text := by
  intro before count after shape beforeEnd afterStart stop
  subst shape
  -- `base` backslashes have been counted in front of `before`, none if it is empty.
  suffices general : ∀ base, evenBackslashes stops base
      (before ++ (List.replicate count '\\' ++ after)) = true → (before = [] → base = 0) →
      count % 2 = 0 from general 0 read fun _ => rfl
  clear read
  induction before with
  | nil =>
      intro base read fresh
      rw [List.nil_append, evenBackslashes_replicate, fresh rfl, Nat.zero_add] at read
      exact even_of_evenBackslashes read afterStart stop
  | cons c before beforeIH =>
      intro base read _
      have nextEnd : before.getLast? ≠ some '\\' := by
        cases before with
        | nil => simp
        | cons => simpa using beforeEnd
      by_cases backslash : c = '\\'
      · rw [List.cons_append, evenBackslashes, if_pos backslash] at read
        refine beforeIH nextEnd (base + 1) read ?_
        intro same
        subst same
        exact absurd (by simp [backslash]) beforeEnd
      · rw [List.cons_append, evenBackslashes, if_neg backslash, Bool.and_eq_true] at read
        exact beforeIH nextEnd 0 read.2 fun _ => rfl

theorem evenBackslashes_iff {stops text : List Char} :
    evenBackslashes stops 0 text = true ↔ EvenBackslashes stops text := by
  constructor
  · exact EvenBackslashes.of_read
  · intro even
    have beforeEnd : ([] : List Char).getLast? ≠ some '\\' := by simp
    have whole : EvenBackslashes stops ([] ++ (List.replicate 0 '\\' ++ text)) := even
    exact whole.read beforeEnd

instance (stops text : List Char) : Decidable (EvenBackslashes stops text) :=
  decidable_of_iff _ evenBackslashes_iff

theorem EvenBackslashes.of_notMem {stops text : List Char} (none : '\\' ∉ text) :
    EvenBackslashes stops text := by
  intro before count after whole _ _ _
  cases count with
  | zero => rfl
  | succ count => exact absurd (by simp [whole, List.replicate_succ]) none

namespace Delimiters

variable {d : Delimiters}

/-- Puts a backslash before every special character. -/
def escape (d : Delimiters) (text : List Char) : List Char :=
  text.flatMap fun c => if c ∈ d.special then ['\\', c] else [c]

@[simp] theorem escape_nil (d : Delimiters) : d.escape [] = [] := rfl

theorem escape_special {c : Char} (isSpecial : c ∈ d.special) (rest : List Char) :
    d.escape (c :: rest) = '\\' :: c :: d.escape rest := by
  simp [escape, isSpecial]

theorem escape_other {c : Char} (notSpecial : c ∉ d.special) (rest : List Char) :
    d.escape (c :: rest) = c :: d.escape rest := by
  simp [escape, notSpecial]

theorem head?_escape (d : Delimiters) (text : List Char) :
    ∀ c ∈ (d.escape text).head?, c ∉ d.special := by
  cases text with
  | nil => simp
  | cons first rest =>
      by_cases isSpecial : first ∈ d.special
      · simp [escape_special isSpecial, backslash_not_special]
      · simp [escape_other isSpecial, isSpecial]

/-- Unescaping undoes escaping, whatever backslashes the text has. -/
theorem unescape_escape (d : Delimiters) (text : List Char) :
    d.unescape (d.escape text) = text := by
  induction text with
  | nil => rfl
  | cons c rest restIH =>
      by_cases isSpecial : c ∈ d.special
      · rw [escape_special isSpecial, unescape_special isSpecial, restIH]
      · rw [escape_other isSpecial]
        by_cases backslash : c = '\\'
        · rw [backslash, unescape_backslash (head?_escape d rest), restIH]
        · rw [unescape_plain backslash, restIH]

/-- An escaped text is a run of units for every reader that stops at special characters only.
`count` backslashes stand in front of the text: an odd number of them leaves one that takes the next
character. -/
theorem units_escape {plain taken : Char → Prop} {stops text : List Char} {count : Nat}
    (stopsSpecial : ∀ c ∈ stops, c ∈ d.special) (takesBackslash : taken '\\')
    (even : evenBackslashes stops count text = true) (allTaken : ∀ c ∈ text, taken c)
    (othersPlain : ∀ c ∈ text, c ∉ stops → plain c) :
    Units plain taken ((if count % 2 = 0 then [] else ['\\']) ++ d.escape text) := by
  induction text generalizing count with
  | nil =>
      have complete : count % 2 = 0 := by simpa [evenBackslashes] using even
      simpa [complete] using Units.nil
  | cons c rest restIH =>
      have restTaken : ∀ other ∈ rest, taken other := fun other member =>
        allTaken other (by simp [member])
      have restPlain : ∀ other ∈ rest, other ∉ stops → plain other := fun other member =>
        othersPlain other (by simp [member])
      by_cases backslash : c = '\\'
      · rw [evenBackslashes, if_pos backslash] at even
        have units := restIH even restTaken restPlain
        rw [backslash, escape_other (backslash_not_special d)]
        by_cases complete : count % 2 = 0
        · have odd : ¬ (count + 1) % 2 = 0 := by omega
          simpa [complete, odd] using units
        · have nowEven : (count + 1) % 2 = 0 := by omega
          rw [if_pos nowEven, List.nil_append] at units
          rw [if_neg complete]
          exact .escaped takesBackslash units
      · rw [evenBackslashes, if_neg backslash, Bool.and_eq_true] at even
        have restUnits : Units plain taken (d.escape rest) := restIH even.2 restTaken restPlain
        have isTaken := allTaken c (by simp)
        by_cases complete : count % 2 = 0
        · rw [if_pos complete, List.nil_append]
          by_cases isSpecial : c ∈ d.special
          · rw [escape_special isSpecial]
            exact .escaped isTaken restUnits
          · rw [escape_other isSpecial]
            exact .plain backslash
              (othersPlain c (by simp) fun stop => isSpecial (stopsSpecial c stop)) restUnits
        · -- An odd backslash takes the one that was put in, so the character stands alone.
          have notStop : c ∉ stops := fun stop => by simp [stop, complete] at even
          rw [if_neg complete]
          by_cases isSpecial : c ∈ d.special
          · rw [escape_special isSpecial]
            exact .escaped takesBackslash
              (.plain backslash (othersPlain c (by simp) notStop) restUnits)
          · rw [escape_other isSpecial]
            exact .escaped isTaken restUnits

theorem units_escape_text {plain taken : Char → Prop} {stops text : List Char}
    (stopsSpecial : ∀ c ∈ stops, c ∈ d.special) (takesBackslash : taken '\\')
    (even : EvenBackslashes stops text) (allTaken : ∀ c ∈ text, taken c)
    (othersPlain : ∀ c ∈ text, c ∉ stops → plain c) : Units plain taken (d.escape text) :=
  units_escape stopsSpecial takesBackslash (evenBackslashes_iff.mpr even) allTaken othersPlain

end Delimiters

/-- A call as a caller means it: a modifier's name and its parameters. -/
structure WrittenCall where
  name : String
  params : List String

namespace WrittenCall

variable {d : Delimiters}

/-- The text of a call: its name, and each parameter escaped behind its delimiter. -/
def source (d : Delimiters) (call : WrittenCall) : List Char :=
  call.name.toList ++ call.params.flatMap fun param => d.parameter :: d.escape param.toList

/-- A call that can be written: its name consists of letters, and no backslash of a parameter is in
the way of the escapes. -/
structure Writable (d : Delimiters) (call : WrittenCall) : Prop where
  name_nonempty : call.name ≠ ""
  name_alphabetic : ∀ c ∈ call.name.toList, isAlphabetic c = true
  params_even : ∀ param ∈ call.params,
    EvenBackslashes [d.modifier, d.parameter, d.closing] param.toList

variable {call : WrittenCall} {separator : Char}

theorem name_units {plain : Char → Prop} (writable : call.Writable d)
    (lettersPlain : ∀ c, isAlphabetic c = true → plain c) :
    Units plain (fun _ => True) call.name.toList :=
  .of_plain fun c member =>
    have letter := writable.name_alphabetic c member
    ⟨letter_ne_backslash letter, lettersPlain c letter⟩

theorem param_units (writable : call.Writable d) {param : String} (member : param ∈ call.params)
    (stops : separator ∈ [d.modifier, d.parameter, d.closing]) :
    PartText separator (d.escape param.toList) := by
  refine Delimiters.units_escape_text ?_ trivial (writable.params_even param member)
    (fun _ _ => trivial) ?_
  · simp [Delimiters.special]
  · intro c inside notStop same
    subst same
    exact notStop stops

theorem source_units (writable : call.Writable d) (different : d.parameter ≠ separator)
    (stops : separator ∈ [d.modifier, d.closing]) (allowed : isDelimiterChar separator = true) :
    PartText separator (call.source d) := by
  refine (name_units writable fun c letter => letter_ne letter allowed).append
    (Units.flatMap fun param member => ?_)
  refine .plain d.parameter_ne_backslash different (param_units writable member ?_)
  simp only [List.mem_cons, List.not_mem_nil, or_false] at stops ⊢
  rcases stops with rfl | rfl <;> simp

theorem source_ne_nil (writable : call.Writable d) : call.source d ≠ [] := by
  simp [source, writable.name_nonempty]

theorem ofSource_source (writable : call.Writable d) :
    ModifierCall.ofSource d (call.source d) = .named call.name call.params := by
  have cut : cutUnescaped d.parameter false (call.source d) =
      (call.name.toList, call.params.map fun param => d.escape param.toList) := by
    rw [source, ← List.flatMap_map (fun param : String => d.escape param.toList)
      (fun part => d.parameter :: part)]
    refine cutUnescaped_join d.parameter_ne_backslash
      (name_units writable fun c letter => letter_ne letter d.parameter_allowed) ?_
    intro part member
    obtain ⟨param, given, rfl⟩ := List.mem_map.mp member
    exact param_units writable given (by simp)
  simp [ModifierCall.ofSource, cut, Delimiters.unescape_escape, Function.comp_def]

end WrittenCall

namespace Delimiters

variable {d : Delimiters} {name : String} {calls : List WrittenCall}

/-- The text of calls that are joined to a chain, or no text if there is no call. -/
def writeChain (d : Delimiters) : List WrittenCall → Option (List Char)
  | [] => none
  | first :: others =>
      some (first.source d ++ others.flatMap fun call => d.modifier :: call.source d)

/-- A keyword as it is written: its name escaped, and its calls behind it. -/
def writeKeyword (d : Delimiters) (name : String) (calls : List WrittenCall) : List Char :=
  d.opening :: d.escape name.toList ++ calls.flatMap (fun call => d.modifier :: call.source d) ++
    [d.closing]

theorem source_writeChain (d : Delimiters) (name : String) (calls : List WrittenCall) :
    KeywordBody.source d ⟨d.escape name.toList, d.writeChain calls⟩ =
      d.writeKeyword name calls := by
  cases calls <;> simp [KeywordBody.source, writeChain, chainSource, writeKeyword]

theorem ofChain_writeChain (writable : ∀ call ∈ calls, call.Writable d) :
    ModifierCall.ofChain d ((d.writeChain calls).getD []) =
      calls.map fun call => .named call.name call.params := by
  cases calls with
  | nil => rfl
  | cons first others =>
      have parts : ∀ call ∈ first :: others, PartText d.modifier (call.source d) :=
        fun call member => WrittenCall.source_units (writable call member)
          d.parameter_distinct.2.2 (by simp) d.modifier_allowed
      have cut : splitUnescaped d.modifier ((d.writeChain (first :: others)).getD []) =
          (first :: others).map (WrittenCall.source d) := by
        rw [writeChain, Option.getD_some, splitUnescaped,
          ← List.flatMap_map (WrittenCall.source d) (fun part => d.modifier :: part),
          cutUnescaped_join d.modifier_ne_backslash (parts first (by simp)) ?_]
        · rfl
        · intro part member
          obtain ⟨call, given, rfl⟩ := List.mem_map.mp member
          exact parts call (by simp [given])
      have kept : ((first :: others).map (WrittenCall.source d)).filter (!·.isEmpty) =
          (first :: others).map (WrittenCall.source d) := by
        rw [List.filter_eq_self]
        intro part member
        obtain ⟨call, given, rfl⟩ := List.mem_map.mp member
        simpa using WrittenCall.source_ne_nil (writable call given)
      rw [ModifierCall.ofChain, cut, kept, List.map_map]
      refine List.map_congr_left fun call member => ?_
      exact WrittenCall.ofSource_source (writable call member)

theorem writeKeyword_wellFormed (nonempty : name ≠ "")
    (solid : ∀ c ∈ name.toList, isWhiteSpace c = false)
    (even : EvenBackslashes [d.modifier, d.closing] name.toList)
    (writable : ∀ call ∈ calls, call.Writable d) :
    KeywordBody.WellFormed d ⟨d.escape name.toList, d.writeChain calls⟩ where
  name_units := by
    refine units_escape_text (by simp [special]) (by decide) even solid ?_
    intro c member notStop
    simp only [List.mem_cons, List.not_mem_nil, or_false, not_or] at notStop
    exact ⟨solid c member, notStop.2, notStop.1⟩
  name_nonempty := by
    intro isEmpty
    have unescaped := unescape_escape d name.toList
    have isEmpty : d.escape name.toList = [] := isEmpty
    rw [isEmpty] at unescaped
    exact nonempty (String.toList_inj.mp unescaped.symm)
  chain_units := by
    have parts : ∀ call ∈ calls, PartText d.closing (call.source d) := fun call member =>
      WrittenCall.source_units (writable call member) d.parameter_distinct.2.1 (by simp)
        d.closing_allowed
    intro chain written
    cases calls with
    | nil => contradiction
    | cons first others =>
        obtain rfl : _ = chain := Option.some.inj written
        refine (parts first (by simp)).append (Units.flatMap fun call member => ?_)
        exact .plain d.modifier_ne_backslash d.modifier_distinct.2
          (parts call (by simp [member]))

/-- A keyword that was written reads back: it is the only one of a text whose other characters open
none, it stands where it was written, and its name and its calls are those it was written with. -/
theorem scan_writeKeyword {before after : String} (nonempty : name ≠ "")
    (solid : ∀ c ∈ name.toList, isWhiteSpace c = false)
    (even : EvenBackslashes [d.modifier, d.closing] name.toList)
    (writable : ∀ call ∈ calls, call.Writable d)
    (beforeFree : d.opening ∉ before.toList) (afterFree : d.opening ∉ after.toList) :
    ∃ occurrence,
      d.scan (before ++ String.ofList (d.writeKeyword name calls) ++ after) = [occurrence] ∧
      occurrence.source = String.ofList (d.writeKeyword name calls) ∧
      occurrence.start = Text.width before.toList ∧
      occurrence.stop = occurrence.start + Text.width (d.writeKeyword name calls) ∧
      occurrence.keyword = d.foldName name ∧
      ModifierCall.ofChain d occurrence.chain.toList =
        calls.map fun call => .named call.name call.params := by
  have wellFormed := writeKeyword_wellFormed nonempty solid even writable
  have source := source_writeChain d name calls
  have behind := pieces_unopened afterFree []
  rw [List.append_nil, pieces_nil, List.append_nil] at behind
  have pieces : d.pieces (before ++ String.ofList (d.writeKeyword name calls) ++ after).toList =
      before.toList.map .literal ++
        (.keyword ⟨d.escape name.toList, d.writeChain calls⟩ :: after.toList.map .literal) := by
    rw [String.toList_append, String.toList_append, String.toList_ofList, List.append_assoc,
      ← source, pieces_unopened beforeFree, pieces_source_append wellFormed, behind]
  refine ⟨.ofBody d (Text.width before.toList) ⟨d.escape name.toList, d.writeChain calls⟩,
    ?_, ?_, rfl, ?_, ?_, ?_⟩
  · have copied := Occurrence.ofPieces_literals d
      (Occurrence.ofBody d (Text.width before.toList)
        ⟨d.escape name.toList, d.writeChain calls⟩).stop after.toList []
    rw [List.append_nil, Occurrence.ofPieces] at copied
    rw [scan, pieces, Occurrence.ofPieces_literals, Nat.zero_add, Occurrence.ofPieces, copied]
  · rw [Occurrence.ofBody, source]
  · rw [Occurrence.ofBody, source]
  · simp [Occurrence.ofBody, unescape_escape]
  · simpa [Occurrence.ofBody] using ofChain_writeChain writable

/-- A name and a parameter with backslashes before delimiters and before other characters. -/
theorem scan_writeKeyword_backslashes :
    EvenBackslashes [standard.modifier, standard.closing] "a\\\\\x7db\\\x7b".toList ∧
      EvenBackslashes [standard.modifier, standard.parameter, standard.closing]
        "\\\\: \\d\\%\\\\".toList ∧
      ∃ occurrence,
        standard.scan ("\\" ++ String.ofList (standard.writeKeyword "a\\\\\x7db\\\x7b"
          [⟨"Up", []⟩, ⟨"add", ["", "\\\\: \\d\\%\\\\"]⟩]) ++ "\x7d") = [occurrence] ∧
        occurrence.start = 1 ∧ occurrence.keyword = standard.foldName "a\\\\\x7db\\\x7b" ∧
        ModifierCall.ofChain standard occurrence.chain.toList =
          [.named "Up" [], .named "add" ["", "\\\\: \\d\\%\\\\"]] := by
  have nameEven : EvenBackslashes ['^', '\x7d'] "a\\\\\x7db\\\x7b".toList := by decide
  have paramEven : EvenBackslashes ['^', ':', '\x7d'] "\\\\: \\d\\%\\\\".toList := by decide
  have writable : ∀ call ∈ [(⟨"Up", []⟩ : WrittenCall), ⟨"add", ["", "\\\\: \\d\\%\\\\"]⟩],
      call.Writable standard := by
    intro call member
    rcases List.mem_cons.mp member with rfl | member
    · exact ⟨by decide, List.all_eq_true.mp (by decide +kernel), by decide⟩
    · obtain rfl := List.mem_singleton.mp member
      exact ⟨by decide, List.all_eq_true.mp (by decide +kernel), by decide⟩
  have solid : ∀ c ∈ "a\\\\\x7db\\\x7b".toList, isWhiteSpace c = false := by
    have noneWhite : "a\\\\\x7db\\\x7b".toList.all (fun c => !isWhiteSpace c) = true := by decide
    simpa only [List.all_eq_true, Bool.not_eq_true'] using noneWhite
  obtain ⟨occurrence, scanned, _, start, _, keyword, read⟩ :=
    @scan_writeKeyword standard "a\\\\\x7db\\\x7b" _ "\\" "\x7d" (by decide) solid nameEven
      writable (by decide) (by decide)
  exact ⟨nameEven, paramEven, occurrence, scanned, start, keyword, read⟩

end Delimiters

end Stencil
