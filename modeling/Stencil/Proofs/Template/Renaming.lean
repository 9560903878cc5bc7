import Mathlib.Data.List.Forall2
import Mathlib.Logic.Equiv.Basic
import Stencil.Proofs.Template.KeywordGrammar
import Stencil.Template.Calls
import Stencil.Proofs.Text.Slices

namespace Stencil

open Unicode

/-! Other delimiters for the same template.

Nothing about a delimiter counts but which role it has.  A permutation of the characters that takes
delimiters to delimiters in the same roles, and leaves the characters of names and of escapes where
they are, takes whatever is read with the ones to what is read with the others.
-/

/-- The permutation takes every delimiter to the one in its role, and leaves alone what escapes are
made of and what cannot be a delimiter. -/
structure Carries (f : Equiv.Perm Char) (d e : Delimiters) : Prop where
  opening : f d.opening = e.opening
  closing : f d.closing = e.closing
  modifier : f d.modifier = e.modifier
  parameter : f d.parameter = e.parameter
  percent : f '%' = '%'
  backslash : f '\\' = '\\'
  reserved : ∀ c, isReserved c = true → f c = c

def KeywordBody.renamed (f : Char → Char) (body : KeywordBody) : KeywordBody where
  name := body.name.map f
  chain := body.chain.map (List.map f)

def Piece.renamed (f : Char → Char) : Piece → Piece
  | .literal c => .literal (f c)
  | .keyword body => .keyword (body.renamed f)

/-- The call with other characters in its parameters. -/
def ModifierCall.renamed (f : Char → Char) (call : ModifierCall) : ModifierCall :=
  ⟨call.name, call.params.map (String.map f)⟩

theorem ofList_map (f : Char → Char) (text : List Char) :
    String.ofList (text.map f) = (String.ofList text).map f := by
  rw [← String.toList_inj, String.toList_map, String.toList_ofList, String.toList_ofList]

namespace Carries

variable {f : Equiv.Perm Char} {d e : Delimiters}

theorem eq_iff (carries : Carries f d e) {c : Char} :
    (f c = e.opening ↔ c = d.opening) ∧ (f c = e.closing ↔ c = d.closing) ∧
      (f c = e.modifier ↔ c = d.modifier) ∧ (f c = e.parameter ↔ c = d.parameter) ∧
      (f c = '%' ↔ c = '%') ∧ (f c = '\\' ↔ c = '\\') := by
  have image {other target : Char} (taken : f other = target) : f c = target ↔ c = other := by
    rw [← taken, f.injective.eq_iff]
  exact ⟨image carries.opening, image carries.closing, image carries.modifier,
    image carries.parameter, image carries.percent, image carries.backslash⟩

/-- A kind of characters that are all reserved is kept. -/
theorem kept_of_reserved (carries : Carries f d e) {kind : Char → Bool}
    (reserved : ∀ c, kind c = true → isReserved c = true) (c : Char) : kind (f c) = kind c := by
  by_cases here : kind c = true
  · rw [carries.reserved c (reserved c here)]
  · by_cases there : kind (f c) = true
    · have fixed := carries.reserved (f c) (reserved _ there)
      rw [f.injective fixed]
    · rw [Bool.eq_false_iff.mpr here, Bool.eq_false_iff.mpr there]

theorem isWhiteSpace (carries : Carries f d e) (c : Char) :
    Unicode.isWhiteSpace (f c) = Unicode.isWhiteSpace c :=
  carries.kept_of_reserved (fun c white => by simp [isReserved, white]) c

theorem isAlphabetic (carries : Carries f d e) (c : Char) :
    Unicode.isAlphabetic (f c) = Unicode.isAlphabetic c :=
  carries.kept_of_reserved (fun c letter => by simp [isReserved, isAlphanumeric, letter]) c

theorem isEscapable (carries : Carries f d e) (c : Char) :
    e.isEscapable (f c) = d.isEscapable c := by
  obtain ⟨opening, closing, modifier, parameter, percent, _⟩ := carries.eq_iff (c := c)
  simp only [Delimiters.isEscapable, opening, closing, modifier, parameter, percent]

theorem takeName_map (carries : Carries f d e) (text : List Char) :
    e.takeName (text.map f) = ((d.takeName text).1.map f, (d.takeName text).2.map f) := by
  fun_induction d.takeName text with
  | case1 => rfl
  | case2 => simp [carries.backslash, Delimiters.takeName]
  | case3 c rest white =>
      simp [carries.backslash, Delimiters.takeName, carries.isWhiteSpace, white]
  | case4 c rest notWhite restIH =>
      simp [carries.backslash, Delimiters.takeName, carries.isWhiteSpace, notWhite, restIH]
  | case5 c rest notEnd notPair stops =>
      obtain ⟨_, closing, modifier, _, _, backslash⟩ := carries.eq_iff (c := c)
      have notBackslash := mt backslash.mp (ne_backslash_of_unpaired notEnd notPair)
      have imageStops :
          Unicode.isWhiteSpace (f c) = true ∨ f c = e.closing ∨ f c = e.modifier := by
        rw [carries.isWhiteSpace, closing, modifier]
        simpa [or_assoc] using stops
      rw [List.map_cons, Delimiters.takeName_plain notBackslash, if_pos imageStops]
      rfl
  | case6 c rest notEnd notPair goesOn restIH =>
      obtain ⟨_, closing, modifier, _, _, backslash⟩ := carries.eq_iff (c := c)
      have notBackslash := mt backslash.mp (ne_backslash_of_unpaired notEnd notPair)
      have imageGoesOn :
          ¬ (Unicode.isWhiteSpace (f c) = true ∨ f c = e.closing ∨ f c = e.modifier) := by
        rw [carries.isWhiteSpace, closing, modifier]
        simpa [or_assoc] using goesOn
      rw [List.map_cons, Delimiters.takeName_plain notBackslash, if_neg imageGoesOn, restIH]
      rfl

theorem takeChain_map (carries : Carries f d e) (text : List Char) :
    e.takeChain (text.map f) = ((d.takeChain text).1.map f, (d.takeChain text).2.map f) := by
  fun_induction d.takeChain text with
  | case1 => rfl
  | case2 => simp [carries.backslash, Delimiters.takeChain]
  | case3 c rest restIH => simp [carries.backslash, Delimiters.takeChain, restIH]
  | case4 rest =>
      rw [List.map_cons, carries.closing, Delimiters.takeChain_closing]
      rfl
  | case5 c rest notEnd notPair goesOn restIH =>
      obtain ⟨_, closing, _, _, _, backslash⟩ := carries.eq_iff (c := c)
      have notBackslash := mt backslash.mp (ne_backslash_of_unpaired notEnd notPair)
      rw [List.map_cons, Delimiters.takeChain_plain notBackslash, if_neg (mt closing.mp goesOn),
        restIH]
      rfl

theorem afterName?_map (carries : Carries f d e) (text : List Char) :
    e.afterName? (text.map f) =
      (d.afterName? text).map fun found => (found.1.map (List.map f), found.2.map f) := by
  cases text with
  | nil => rfl
  | cons c rest =>
      obtain ⟨_, closing, modifier, _⟩ := carries.eq_iff (c := c)
      simp only [List.map_cons, Delimiters.afterName?, closing, modifier, carries.takeChain_map]
      split
      · rfl
      · split
        · cases (d.takeChain rest).2 with
          | nil => rfl
          | cons stop after =>
              obtain ⟨_, stops, _⟩ := carries.eq_iff (c := stop)
              simp only [List.map_cons, stops]
              split <;> rfl
        · rfl

theorem keyword?_map (carries : Carries f d e) (text : List Char) :
    e.keyword? (text.map f) =
      (d.keyword? text).map fun found => (found.1.renamed f, found.2.map f) := by
  cases text with
  | nil => rfl
  | cons c rest =>
      obtain ⟨opening, _⟩ := carries.eq_iff (c := c)
      simp only [List.map_cons, Delimiters.keyword?, opening, carries.takeName_map,
        carries.afterName?_map, ne_eq, List.map_eq_nil_iff, Option.map_map]
      split
      · rw [Option.map_map]
        rfl
      · rfl

theorem pieces_map (carries : Carries f d e) (text : List Char) :
    e.pieces (text.map f) = (d.pieces text).map (Piece.renamed f) := by
  fun_induction d.pieces text with
  | case1 => rw [List.map_nil, Delimiters.pieces_nil, List.map_nil]
  | case2 c rest body after found restIH =>
      have renamed := carries.keyword?_map (c :: rest)
      rw [found, Option.map_some, List.map_cons] at renamed
      rw [List.map_cons, Delimiters.keyword?_source renamed,
        Delimiters.pieces_source_append (Delimiters.keyword?_wellFormed renamed), restIH]
      rfl
  | case3 c rest missing restIH =>
      have renamed := carries.keyword?_map (c :: rest)
      rw [missing, Option.map_none, List.map_cons] at renamed
      rw [List.map_cons, Delimiters.pieces_literal (Delimiters.keyword?_eq_none_iff.mp renamed),
        restIH]
      rfl

theorem unescape_map (carries : Carries f d e) (text : List Char) :
    e.unescape (text.map f) = (d.unescape text).map f := by
  fun_induction d.unescape text with
  | case1 => rfl
  | case2 => rfl
  | case3 c next rest escaped restIH =>
      simp [Delimiters.unescape, escaped.1, carries.backslash, carries.isEscapable, escaped.2,
        restIH]
  | case4 c next rest notEscaped restIH =>
      obtain ⟨_, _, _, _, _, backslash⟩ := carries.eq_iff (c := c)
      have imageNotEscaped : ¬ (f c = '\\' ∧ e.isEscapable (f next) = true) := by
        rwa [backslash, carries.isEscapable]
      rw [List.map_cons, List.map_cons, Delimiters.unescape, if_neg imageNotEscaped,
        ← List.map_cons, restIH, List.map_cons]

theorem cutUnescaped_map (carries : Carries f d e) (separator : Char) (escaped : Bool)
    (text : List Char) :
    cutUnescaped (f separator) escaped (text.map f) =
      ((cutUnescaped separator escaped text).1.map f,
        (cutUnescaped separator escaped text).2.map (List.map f)) := by
  induction text generalizing escaped with
  | nil => rfl
  | cons c rest restIH =>
      obtain ⟨_, _, _, _, _, backslash⟩ := carries.eq_iff (c := c)
      have sameTest : (f c != '\\') = (c != '\\') := by
        simp only [bne, beq_eq_decide, backslash]
      simp only [List.map_cons, cutUnescaped, sameTest, backslash, f.injective.eq_iff, restIH]
      split <;> rfl

theorem normalizeName_map (carries : Carries f d e) (name : List Char) :
    normalizeName (String.ofList (name.map f)) = normalizeName (String.ofList name) := by
  have letters : (name.map f).filter Unicode.isAlphabetic = name.filter Unicode.isAlphabetic := by
    rw [List.filter_map]
    have sameTest : Unicode.isAlphabetic ∘ f = Unicode.isAlphabetic :=
      funext carries.isAlphabetic
    rw [sameTest]
    refine (List.map_congr_left fun c member => ?_).trans (List.map_id _)
    exact carries.reserved c (by simp [isReserved, isAlphanumeric, (List.mem_filter.mp member).2])
  simp only [normalizeName, String.toList_ofList, letters]

theorem ofSource_map (carries : Carries f d e) (source : List Char) :
    ModifierCall.ofSource e (source.map f) = (ModifierCall.ofSource d source).renamed f := by
  simp only [ModifierCall.ofSource, ← carries.parameter, carries.cutUnescaped_map,
    ModifierCall.named, ModifierCall.renamed, carries.normalizeName_map, List.map_map]
  refine congrArg _ (List.map_congr_left fun param _ => ?_)
  rw [Function.comp_apply, Function.comp_apply, carries.unescape_map, ofList_map]

theorem ofChain_map (carries : Carries f d e) (chain : List Char) :
    ModifierCall.ofChain e (chain.map f) =
      (ModifierCall.ofChain d chain).map (ModifierCall.renamed f) := by
  have parts : splitUnescaped e.modifier (chain.map f) =
      (splitUnescaped d.modifier chain).map (List.map f) := by
    simp only [splitUnescaped, ← carries.modifier, carries.cutUnescaped_map, List.map_cons]
  have sameTest : (fun part : List Char => !part.isEmpty) ∘ List.map f = (!·.isEmpty) :=
    funext fun part => by simp
  rw [ModifierCall.ofChain, ModifierCall.ofChain, parts, List.filter_map, sameTest, List.map_map,
    List.map_map]
  exact List.map_congr_left fun source _ => carries.ofSource_map source

theorem source_renamed (carries : Carries f d e) (body : KeywordBody) :
    (body.renamed f).source e = (body.source d).map f := by
  cases chain : body.chain <;>
    simp [KeywordBody.source, KeywordBody.renamed, Delimiters.chainSource, chain, carries.opening,
      carries.closing, carries.modifier]

end Carries

/-- The number of characters in front of a place in a text. -/
def Text.charsBefore (place : Nat) (text : List Char) : Nat :=
  (Text.takeBytes place text).length

/-- The second occurrence consists of the images of the first one's characters, and stands at the
same place among them. -/
structure Occurrence.Renamed (f : Char → Char) (text : List Char)
    (occurrence renamed : Occurrence) : Prop where
  source : renamed.source = occurrence.source.map f
  keyword : renamed.keyword = occurrence.keyword.map f
  chain : renamed.chain = occurrence.chain.map f
  start : Text.charsBefore renamed.start (text.map f) = Text.charsBefore occurrence.start text
  stop : Text.charsBefore renamed.stop (text.map f) = Text.charsBefore occurrence.stop text

theorem Text.charsBefore_width (before after : List Char) :
    charsBefore (width before) (before ++ after) = before.length := by
  rw [charsBefore, takeBytes_width_append]

namespace Carries

variable {f : Equiv.Perm Char} {d e : Delimiters}

theorem renamed_ofBody (carries : Carries f d e) (sensitive : d.caseSensitive = true)
    (imageSensitive : e.caseSensitive = true) (before after : List Char) (body : KeywordBody) :
    Occurrence.Renamed f (before ++ (body.source d ++ after))
      (.ofBody d (Text.width before) body)
      (.ofBody e (Text.width (before.map f)) (body.renamed f)) where
  source := by
    rw [Occurrence.ofBody, Occurrence.ofBody, carries.source_renamed, ofList_map]
  keyword := by
    simp only [Occurrence.ofBody, KeywordBody.renamed, Delimiters.foldName, sensitive,
      imageSensitive, if_true, carries.unescape_map, ofList_map]
  chain := by
    cases chain : body.chain <;>
      simp [Occurrence.ofBody, KeywordBody.renamed, chain, ofList_map]
  start := by
    rw [List.map_append, Occurrence.ofBody, Occurrence.ofBody, Text.charsBefore_width,
      Text.charsBefore_width, List.length_map]
  stop := by
    rw [← List.append_assoc, List.map_append, List.map_append, Occurrence.ofBody,
      Occurrence.ofBody, carries.source_renamed, ← Text.width_append, ← Text.width_append,
      Text.charsBefore_width, Text.charsBefore_width, List.length_append, List.length_append,
      List.length_map, List.length_map]

/-- The occurrences among pieces and among their images.  `before` is the text in front of them. -/
theorem renamed_ofPieces (carries : Carries f d e) (sensitive : d.caseSensitive = true)
    (imageSensitive : e.caseSensitive = true) (before : List Char) (pieces : List Piece) :
    List.Forall₂ (Occurrence.Renamed f (before ++ pieces.flatMap (Piece.source d)))
      (Occurrence.ofPieces d (Text.width before) pieces)
      (Occurrence.ofPieces e (Text.width (before.map f)) (pieces.map (Piece.renamed f))) := by
  induction pieces generalizing before with
  | nil => exact .nil
  | cons piece rest restIH =>
      cases piece with
      | literal c =>
          have later := restIH (before ++ [c])
          simp only [List.map_append, List.map_cons, List.map_nil, Text.width_append,
            Text.width_cons, Text.width_nil, Nat.add_zero, List.append_assoc, List.cons_append,
            List.nil_append] at later
          exact later
      | keyword body =>
          have here := carries.renamed_ofBody sensitive imageSensitive before
            (rest.flatMap (Piece.source d)) body
          have later := restIH (before ++ body.source d)
          rw [List.map_append, ← carries.source_renamed, Text.width_append, Text.width_append,
            List.append_assoc] at later
          exact .cons here later

end Carries

/-- Templates, their keywords and their chains are read in the same way whatever the delimiters are:
with the images of the characters and of the delimiters the same occurrences are found, in the same
order and at the same places among the characters, and every chain has the calls of the same
modifiers with the images of the parameters. -/
theorem scan_renamed {f : Equiv.Perm Char} {d e : Delimiters} (carries : Carries f d e)
    (sensitive : d.caseSensitive = true) (imageSensitive : e.caseSensitive = true)
    (template : String) :
    List.Forall₂ (Occurrence.Renamed f template.toList) (d.scan template)
        (e.scan (template.map f)) ∧
      ∀ chain : String, ModifierCall.ofChain e (chain.map f).toList =
        (ModifierCall.ofChain d chain.toList).map (ModifierCall.renamed f) := by
  refine ⟨?_, fun chain => ?_⟩
  · have read := carries.renamed_ofPieces sensitive imageSensitive [] (d.pieces template.toList)
    rw [source_pieces, ← carries.pieces_map] at read
    rw [Delimiters.scan, Delimiters.scan, String.toList_map]
    exact read
  · rw [String.toList_map]
    exact carries.ofChain_map chain.toList

/-- Braces and parentheses trade places, and so do the other delimiters. -/
theorem scan_renamed_parentheses :
    let d : Delimiters := { Delimiters.standard with caseSensitive := true }
    let e : Delimiters :=
      { opening := '(', closing := ')', modifier := '*', parameter := '+', caseSensitive := true
        opening_allowed := by decide +kernel
        closing_allowed := by decide +kernel
        modifier_allowed := by decide +kernel
        parameter_allowed := by decide +kernel
        modifier_distinct := by decide
        parameter_distinct := by decide }
    let f := (((Equiv.swap '\x7b' '(').trans (Equiv.swap '\x7d' ')')).trans
      (Equiv.swap '^' '*')).trans (Equiv.swap ':' '+')
    let template := "(\x7btitle^add:1\x7d)"
    Carries f d e ∧ d.caseSensitive = true ∧ e.caseSensitive = true ∧
      template.map f = "\x7b(title*add+1)\x7d" ∧
        List.Forall₂ (Occurrence.Renamed f template.toList) (d.scan template)
          (e.scan (template.map f)) := by
  intro d e f template
  have unmoved {c : Char} (reserved : isReserved c = true) {a b : Char}
      (free : isReserved a = false ∧ isReserved b = false) : Equiv.swap a b c = c := by
    refine Equiv.swap_apply_of_ne_of_ne (fun same => ?_) fun same => ?_
    · cases reserved.symm.trans (same ▸ free.1)
    · cases reserved.symm.trans (same ▸ free.2)
  have carries : Carries f d e := by
    refine ⟨by decide, by decide, by decide, by decide, by decide, by decide, fun c reserved => ?_⟩
    change Equiv.swap ':' '+' (Equiv.swap '^' '*' (Equiv.swap '\x7d' ')'
      (Equiv.swap '\x7b' '(' c))) = c
    rw [unmoved reserved (by decide +kernel), unmoved reserved (by decide +kernel),
      unmoved reserved (by decide +kernel), unmoved reserved (by decide +kernel)]
  exact ⟨carries, rfl, rfl, by decide +kernel, (scan_renamed carries rfl rfl template).1⟩

end Stencil
