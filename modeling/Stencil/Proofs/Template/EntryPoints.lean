import Stencil.Proofs.Template.SinglePass

namespace Stencil

/-! Ways to give values to a template.

An object, a collection and a mapping give the same text for the same entries.  An object is refused
only where something else is given to a template that has keywords.  The order of entries matters
only between keys that fold to one name.
-/

/-- Where all keys fold to different names, a name has the same value in every order. -/
theorem lastFolded?_perm {d : Delimiters} {entries others : List (String × Value)}
    (distinct : (entries.map fun entry => d.foldName entry.1).Nodup) (same : others.Perm entries)
    (keyword : String) : lastFolded? d keyword others = lastFolded? d keyword entries := by
  have reordered := same.filter fun entry => d.foldName entry.1 == keyword
  have single : (entries.filter fun entry => d.foldName entry.1 == keyword).length ≤ 1 := by
    have kept : ((entries.filter fun entry => d.foldName entry.1 == keyword).map
        fun entry => d.foldName entry.1).Nodup :=
      distinct.sublist (List.filter_sublist.map _)
    have alike : (entries.filter fun entry => d.foldName entry.1 == keyword).map
        (fun entry => d.foldName entry.1) =
        List.replicate (entries.filter fun entry => d.foldName entry.1 == keyword).length
          keyword := by
      rw [List.map_eq_replicate_iff]
      exact fun entry member => beq_iff_eq.mp (List.mem_filter.mp member).2
    rw [alike] at kept
    exact List.nodup_replicate.mp kept
  rw [lastFolded?, lastFolded?]
  cases found : entries.filter fun entry => d.foldName entry.1 == keyword with
  | nil =>
      rw [found] at reordered
      rw [reordered.eq_nil]
  | cons entry rest =>
      have alone : rest = [] := by
        rw [found, List.length_cons] at single
        exact List.eq_nil_of_length_eq_zero (by omega)
      subst alone
      rw [found] at reordered
      rw [List.perm_singleton.mp reordered]

namespace KeywordValues

theorem putField_of_notMem {name : String} {value : Value} {fields : List (String × Value)}
    (new : name ∉ fields.map (·.1)) :
    Value.putField name value fields = fields ++ [(name, value)] := by
  induction fields with
  | nil => rfl
  | cons field rest restIH =>
      obtain ⟨other, old⟩ := field
      rw [List.map_cons, List.mem_cons, not_or] at new
      rw [Value.putField, if_neg (Ne.symm new.1), restIH new.2]
      rfl

/-- Pairs with different keys are collected as they are. -/
theorem entries_ofPairs {pairs : List (String × Value)} (distinct : (pairs.map (·.1)).Nodup) :
    (ofPairs pairs).entries = pairs := by
  suffices collected : ∀ values : KeywordValues,
      (∀ key ∈ pairs.map (·.1), key ∉ values.entries.map (·.1)) →
      (pairs.foldl (fun values pair => values.put pair.1 pair.2) values).entries =
        values.entries ++ pairs from
    collected empty fun _ _ => List.not_mem_nil
  induction pairs with
  | nil => exact fun values _ => (List.append_nil _).symm
  | cons pair rest restIH =>
      intro values apart
      obtain ⟨key, value⟩ := pair
      obtain ⟨newInRest, restDistinct⟩ := List.nodup_cons.mp distinct
      have put : (values.put key value).entries = values.entries ++ [(key, value)] :=
        putField_of_notMem (apart key List.mem_cons_self)
      rw [List.foldl_cons, restIH restDistinct, put, List.append_assoc]
      · rfl
      · intro later member inPut
        rw [put, List.map_append, List.mem_append] at inPut
        rcases inPut with before | here
        · exact apart later (List.mem_cons_of_mem _ member) before
        · rw [List.map_singleton, List.mem_singleton] at here
          subst here
          exact newInRest member

end KeywordValues

namespace Template

variable (d : Delimiters) (registry : Registry)

theorem ofPieces_eq_nil_iff (place : Nat) (pieces : List Piece) :
    Occurrence.ofPieces d place pieces = [] ↔ ∀ body, .keyword body ∉ pieces := by
  induction pieces generalizing place with
  | nil => simp [Occurrence.ofPieces]
  | cons piece rest restIH =>
      cases piece with
      | literal c => simpa [Occurrence.ofPieces] using restIH _
      | keyword body =>
          constructor
          · intro isEmpty
            cases isEmpty
          · intro missing
            exact absurd List.mem_cons_self (missing body)

theorem hasKeywords_parse_iff (text : String) :
    (parse d registry text).hasKeywords = true ↔ d.scan text ≠ [] := by
  rw [Delimiters.scan, Ne, ofPieces_eq_nil_iff]
  by_cases missing : ∀ body, .keyword body ∉ d.pieces text.toList
  · rw [parse_of_no_keyword missing]
    simp [hasKeywords, missing]
  · rw [parse_of_keyword missing]
    simp [hasKeywords, missing]

theorem render?_of_not_hasKeywords {template : Template} (keywordless : template.hasKeywords = false)
    (entries : List (String × Value)) : template.render? entries = some template.text := by
  rw [hasKeywords, Option.isSome_eq_false_iff, Option.isNone_iff_eq_none] at keywordless
  rw [render?, keywordless]

theorem text_parse (text : String) : (parse d registry text).text = text := by
  by_cases missing : ∀ body, .keyword body ∉ d.pieces text.toList
  · rw [parse_of_no_keyword missing]
  · rw [parse_of_keyword missing]

theorem populate_error_iff {template : Template} {value : Value} {fault : ArgumentFault} :
    template.populate value = .error fault ↔
      template.hasKeywords = true ∧ value.kind ≠ .object ∧ fault = .notMapping value.kind := by
  unfold populate entriesOf
  by_cases has : template.hasKeywords = true
  · rw [if_pos has]
    cases value <;> simp [Except.map, Value.kind, has, eq_comm (a := fault)]
  · rw [if_neg has]
    simp [Except.map, has]

theorem populate_object (template : Template) (fields : List (String × Value)) :
    template.populate (.object fields) = .ok (template.render? fields) := by
  unfold populate entriesOf
  by_cases has : template.hasKeywords = true
  · rw [if_pos has]
    rfl
  · have keywordless : template.hasKeywords = false := Bool.eq_false_iff.mpr has
    rw [if_neg has, render?_of_not_hasKeywords keywordless fields]
    exact congrArg Except.ok (render?_of_not_hasKeywords keywordless [])

theorem render?_parse_perm {entries others : List (String × Value)}
    (distinct : (entries.map fun entry => d.foldName entry.1).Nodup) (same : others.Perm entries)
    (text : String) : (parse d registry text).render? others =
      (parse d registry text).render? entries := by
  have sameFilling : Occurrence.filling? d registry others =
      Occurrence.filling? d registry entries := by
    funext occurrence
    rw [Occurrence.filling?, Occurrence.filling?, lastFolded?_perm distinct same]
  rw [render?_parse, render?_parse, sameFilling]

/-- The ways to fill a template in agree.  Only a template with keywords refuses an argument, and
then just what is no object; an object, whose fields have different names, gives the text that the
collection made of it gives; without keywords the text of the template is all that there is; and
where no two keys fold to one name, entries give the same text as an object, as a mapping or as a
collection, in whatever order they are given or gone through. -/
theorem populate_entry_points (text : String) :
    let template := parse d registry text
    (template.hasKeywords = true ↔ d.scan text ≠ []) ∧
      (∀ value fault, template.populate value = .error fault ↔
        template.hasKeywords = true ∧ value.kind ≠ .object ∧ fault = .notMapping value.kind) ∧
      (∀ fields : List (String × Value), (fields.map (·.1)).Nodup → ∃ values,
        KeywordValues.ofValue (.object fields) = .ok values ∧
          template.populate (.object fields) = .ok (template.populateValues values)) ∧
      (template.hasKeywords = false →
        (∀ value, template.populate value = .ok (some text)) ∧
          (∀ values, template.populateValues values = some text) ∧
          ∀ entries, template.populateMap entries = some text) ∧
      ∀ entries : List (String × Value), (entries.map fun entry => d.foldName entry.1).Nodup →
        ∃ result, ∀ reordered : List (String × Value), reordered.Perm entries →
          template.populate (.object reordered) = .ok result ∧
            template.populateMap reordered = result ∧
            ∀ values : KeywordValues, values.entries = reordered →
              template.populateValues values = result := by
  intro template
  refine ⟨hasKeywords_parse_iff d registry text, fun _ _ => populate_error_iff, ?_, ?_, ?_⟩
  · intro fields distinct
    refine ⟨.ofPairs fields, rfl, ?_⟩
    rw [populate_object, populateValues, KeywordValues.entries_ofPairs distinct]
  · intro keywordless
    have echoed (entries : List (String × Value)) : template.render? entries = some text := by
      rw [render?_of_not_hasKeywords keywordless, text_parse]
    refine ⟨fun value => ?_, fun values => echoed values.entries, echoed⟩
    unfold populate entriesOf
    rw [keywordless, if_neg Bool.false_ne_true, Except.map, echoed]
  · intro entries distinct
    refine ⟨template.render? entries, fun reordered same => ?_⟩
    have sameText := render?_parse_perm d registry distinct same text
    refine ⟨?_, sameText, fun values shown => ?_⟩
    · rw [populate_object, sameText]
    · rw [populateValues, shown, sameText]

/-- A template with keywords, for entries given in one order and gone through in the other. -/
theorem populate_either_order :
    let entries := [("name", Value.string "Ann"), ("Straße", Value.null)]
    let template := parse .standard .empty "\x7bSTRASSE\x7d \x7bName^trim\x7d"
    (entries.map fun entry => Delimiters.standard.foldName entry.1).Nodup ∧
      entries.reverse.Perm entries ∧
        ∃ result, template.populate (.object entries) = .ok result ∧
          template.populateMap entries.reverse = result := by
  intro entries template
  have distinct : (entries.map fun entry => Delimiters.standard.foldName entry.1).Nodup := by
    decide +kernel
  have reversed : entries.reverse.Perm entries := List.reverse_perm entries
  obtain ⟨_, _, _, _, agree⟩ :=
    populate_entry_points .standard .empty "\x7bSTRASSE\x7d \x7bName^trim\x7d"
  obtain ⟨result, same⟩ := agree entries distinct
  exact ⟨distinct, reversed, result, (same entries (.refl _)).1, (same _ reversed).2.1⟩

end Template

end Stencil
