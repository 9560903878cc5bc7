import Stencil.Proofs.CommandLine.Inputs
import Stencil.Proofs.Data.FiniteMap
import Stencil.Proofs.Modifier.Steadiness
import Stencil.Proofs.Template.EntryPoints
import Stencil.Proofs.Template.WriteLog

namespace Stencil

/-! Which source a keyword takes its value from.

The sources are written into one log: first the configuration, then the file, then the command line.
So a keyword has the value of the last source in which a key folds to its name.
-/

theorem replaceSpans_eq_none_iff {filling? : Occurrence → Option (List Char)} {text : List Char}
    {place : Nat} {occurrences : List Occurrence} :
    replaceSpans filling? text place occurrences = none ↔
      ∃ occurrence ∈ occurrences, filling? occurrence = none := by
  induction occurrences generalizing place with
  | nil => simp [replaceSpans]
  | cons occurrence rest restIH =>
      rw [replaceSpans, List.exists_mem_cons_iff, ← @restIH occurrence.stop]
      cases filling? occurrence with
      | none => simp
      | some filled => cases replaceSpans filling? text occurrence.stop rest <;> simp

/-- One call of the occurrence's chain is to write a moment with an offset that cannot be written:
the calls before it make a moment of the keyword's value. -/
def Occurrence.BreaksOff [Regex.Limits] (d : Delimiters) (value? : String → Option Value)
    (occurrence : Occurrence) : Prop :=
  ∃ value before call after reached, value? occurrence.keyword = some value ∧
    ModifierCall.ofChain d occurrence.chain.toList = before ++ call :: after ∧
    before.foldlM (fun value call => Registry.builtin.resolve call value) value = some reached ∧
    call.LooseDate ∧ reached.moment?.isSome

theorem Occurrence.fillingBy?_eq_none_iff [Regex.Limits] {d : Delimiters}
    {value? : String → Option Value} {occurrence : Occurrence} :
    occurrence.fillingBy? d .builtin value? = none ↔ occurrence.BreaksOff d value? := by
  rw [fillingBy?, BreaksOff]
  cases value? occurrence.keyword with
  | none => simp
  | some value =>
      simp only [Option.map_eq_none_iff, foldlM_eq_none_iff, Registry.resolve_builtin_eq_none_iff,
        Option.some.injEq]
      constructor
      · rintro ⟨before, call, after, reached, breaksOff⟩
        exact ⟨value, before, call, after, reached, rfl, breaksOff⟩
      · rintro ⟨_, before, call, after, reached, rfl, breaksOff⟩
        exact ⟨before, call, after, reached, breaksOff⟩

namespace CommandLine

/-- Texts as values. -/
def asValues (texts : List (String × String)) : List (String × Value) :=
  texts.map fun entry => (entry.1, .string entry.2)

/-- The last text of a name where only one key folds to it. -/
theorem lastFolded?_asValues {d : Delimiters} {key keyword : String}
    {texts : List (String × String)} (folds : d.foldName key = keyword)
    (only : ∀ entry ∈ texts, d.foldName entry.1 = keyword → entry.1 = key) :
    lastFolded? d keyword (asValues texts) =
      ((texts.filter (·.1 == key)).getLast?.map (·.2)).map .string := by
  have sameEntries : texts.filter (fun entry => d.foldName entry.1 == keyword) =
      texts.filter (·.1 == key) := by
    refine List.filter_congr fun entry member => ?_
    rw [Bool.eq_iff_iff, beq_iff_eq, beq_iff_eq]
    exact ⟨only entry member, fun same => same ▸ folds⟩
  rw [lastFolded?, asValues, List.filter_map, List.getLast?_map, Option.map_map, Option.map_map]
  rw [← sameEntries]
  rfl

/-- No two keys of the configuration fold to one name, and no two keys of assignments. -/
structure Inputs.Apart (inputs : Inputs) (config : Config) : Prop where
  configured : (config.values.keys.map inputs.delimiters.foldName).Nodup
  assigned : ∀ first ∈ inputs.assigned, ∀ second ∈ inputs.assigned,
    inputs.delimiters.foldName first.1 = inputs.delimiters.foldName second.1 → first.1 = second.1

/-- The value of a name: that of the command line, else that of the file, else that of the
configuration. -/
def Inputs.value? (inputs : Inputs) (configured assigned : List (String × String))
    (keyword : String) : Option Value :=
  (lastFolded? inputs.delimiters keyword (asValues assigned)).or
    ((lastFolded? inputs.delimiters keyword inputs.loaded.entries).or
      (lastFolded? inputs.delimiters keyword (asValues configured)))

/-- The text of the template with the values that a function gives to the keywords, if no modifier
breaks off. -/
def Inputs.filledBy? [Regex.Limits] (inputs : Inputs) (value? : String → Option Value) :
    Option String :=
  (replaceSpans (Occurrence.fillingBy? inputs.delimiters .builtin value?) inputs.source.toList 0
    (inputs.delimiters.scan inputs.source)).map String.ofList

theorem Inputs.filledIn_eq [Regex.Limits] (inputs : Inputs)
    (configured assigned : List (String × String)) :
    inputs.filledIn configured assigned = inputs.filledBy? (inputs.value? configured assigned) := by
  refine Template.populateValues_eq_fillingBy? (fun keyword => ?_) .builtin inputs.source
  have overFile (values : KeywordValues) :
      extendTexts values assigned = values.setAll (asValues assigned) := rfl
  have atFirst : extendTexts .empty configured =
      KeywordValues.empty.setAll (asValues configured) := rfl
  have unset : lastFolded? inputs.delimiters keyword KeywordValues.empty.entries = none := rfl
  rw [overFile, atFirst, KeywordValues.extend, KeywordValues.lastFolded?_setAll,
    KeywordValues.lastFolded?_setAll, KeywordValues.lastFolded?_setAll, unset, Option.or_none]
  rfl

theorem Inputs.filledBy?_eq_none_iff [Regex.Limits] {inputs : Inputs}
    {value? : String → Option Value} :
    inputs.filledBy? value? = none ↔
      ∃ occurrence ∈ inputs.delimiters.scan inputs.source,
        occurrence.BreaksOff inputs.delimiters value? := by
  simp only [filledBy?, Option.map_eq_none_iff, replaceSpans_eq_none_iff,
    Occurrence.fillingBy?_eq_none_iff]

theorem lastFolded?_asValues_perm {d : Delimiters} {texts others : List (String × String)}
    (distinct : ((texts.map (·.1)).map d.foldName).Nodup) (same : others.Perm texts)
    (keyword : String) :
    lastFolded? d keyword (asValues others) = lastFolded? d keyword (asValues texts) := by
  refine lastFolded?_perm ?_ (same.map _) keyword
  rw [List.map_map] at distinct ⊢
  exact distinct

/-- A dictionary of assignments has the last text of every name, whatever keys it was given
under. -/
theorem lastFolded?_ofList {d : Delimiters} {assigned : List (String × String)}
    (apart : ∀ first ∈ assigned, ∀ second ∈ assigned,
      d.foldName first.1 = d.foldName second.1 → first.1 = second.1) (keyword : String) :
    lastFolded? d keyword (asValues (Dictionary.ofList assigned).entries) =
      lastFolded? d keyword (asValues assigned) := by
  have listed (key : String) : key ∈ (Dictionary.ofList assigned).entries.map (·.1) ↔
      key ∈ assigned.map (·.1) := Dictionary.mem_keys_ofList assigned key
  by_cases named : ∃ entry ∈ assigned, d.foldName entry.1 = keyword
  · obtain ⟨entry, member, folds⟩ := named
    have only : ∀ other ∈ assigned, d.foldName other.1 = keyword → other.1 = entry.1 :=
      fun other isAssigned same => apart other isAssigned entry member (same.trans folds.symm)
    have onlyListed : ∀ other ∈ (Dictionary.ofList assigned).entries,
        d.foldName other.1 = keyword → other.1 = entry.1 := by
      intro other inEntries same
      obtain ⟨given, isAssigned, sameKey⟩ :=
        List.mem_map.mp ((listed other.1).mp (List.mem_map_of_mem inEntries))
      rw [← sameKey] at same ⊢
      exact only given isAssigned same
    have distinct : ((Dictionary.ofList assigned).entries.map (·.1)).Nodup :=
      (Dictionary.ascending_ofList assigned).keys_nodup
    rw [lastFolded?_asValues folds onlyListed, lastFolded?_asValues folds only,
      ← Dictionary.find?_of_distinct distinct, ← Dictionary.lookup?_eq_find?,
      ← Dictionary.get?_ofList]
    rfl
  · have noneFolds : ∀ key ∈ assigned.map (·.1), d.foldName key ≠ keyword := by
      intro key member folds
      obtain ⟨entry, isAssigned, rfl⟩ := List.mem_map.mp member
      exact named ⟨entry, isAssigned, folds⟩
    have unnamed {texts : List (String × String)}
        (none : ∀ key ∈ texts.map (·.1), d.foldName key ≠ keyword) :
        lastFolded? d keyword (asValues texts) = .none := by
      rw [lastFolded?_eq_none_iff]
      intro entry inValues
      obtain ⟨text, member, rfl⟩ := List.mem_map.mp inValues
      exact none _ (List.mem_map_of_mem member)
    rw [unnamed noneFolds, unnamed fun key member => noneFolds key ((listed key).mp member)]

/-- Where keys are apart it does not matter in which order they are listed. -/
theorem Inputs.value?_of_apart {inputs : Inputs} {config : Config} (apart : inputs.Apart config)
    (orders : Orders) :
    inputs.value? (orders.configured.entries config.values)
        (orders.assigned.entries (.ofList inputs.assigned)) =
      inputs.value? config.values.entries inputs.assigned := by
  funext keyword
  have distinct : (((Dictionary.ofList inputs.assigned).entries.map (·.1)).map
      inputs.delimiters.foldName).Nodup := by
    refine List.Nodup.map_on ?_ (Dictionary.ascending_ofList inputs.assigned).keys_nodup
    intro first firstListed second secondListed same
    obtain ⟨one, isFirst, rfl⟩ :=
      List.mem_map.mp ((Dictionary.mem_keys_ofList ..).mp firstListed)
    obtain ⟨other, isSecond, rfl⟩ :=
      List.mem_map.mp ((Dictionary.mem_keys_ofList ..).mp secondListed)
    exact apart.assigned one isFirst other isSecond same
  rw [value?, value?, lastFolded?_asValues_perm distinct (orders.assigned.perm _),
    lastFolded?_ofList apart.assigned,
    lastFolded?_asValues_perm apart.configured (orders.configured.perm _)]

theorem answer_render_of_apart [Regex.Limits] {documents : DocumentReaders} {config : Config}
    {template : String} {assignments : List String} {values : Option String} {world : World}
    {inputs : Inputs}
    (ready : inputs.Ready documents world.files config template assignments values)
    (apart : inputs.Apart config) (orders : Orders) :
    (render documents orders config template assignments values).answer world =
      (inputs.filledBy? (inputs.value? config.values.entries inputs.assigned)).elim
        (.error .brokenOff) .ok := by
  rw [answer_render_of_ready ready, Inputs.filledIn_eq, Inputs.value?_of_apart apart]

/-- A run that fills a template in changes nothing.  It reports the first of its problems, in the
order in which delimiters, template, values and assignments are read, and without a problem it gives
the filled in text.  It breaks off just if a moment is to be written with an offset that cannot be
written.  Where no two keys of the configuration and no two keys of assignments fold to one name, a
keyword has the last text assigned to it, else its last value in the file, else its text in the
configuration, in whatever orders the keys are listed. -/
theorem render_reports_or_fills [Regex.Limits] (documents : DocumentReaders) (orders : Orders)
    (config : Config) (template : String) (assignments : List String) (values : Option String)
    (world : World) :
    let ran := (render documents orders config template assignments values).run world
    ran.2 = world ∧
      (∀ failure, ran.1 = .error (.failed failure) ↔
        First (Problem documents world.files config template assignments values) failure) ∧
      ((∃ text, ran.1 = .ok text) ↔
        ∃ inputs : Inputs,
          inputs.Ready documents world.files config template assignments values ∧
            ∀ occurrence ∈ inputs.delimiters.scan inputs.source,
              ¬ occurrence.BreaksOff inputs.delimiters
                (inputs.value? (orders.configured.entries config.values)
                  (orders.assigned.entries (.ofList inputs.assigned)))) ∧
      ∀ inputs : Inputs,
        inputs.Ready documents world.files config template assignments values →
          inputs.Apart config →
            ran.1 = match replaceSpans (Occurrence.fillingBy? inputs.delimiters .builtin
                (inputs.value? config.values.entries inputs.assigned))
                inputs.source.toList 0 (inputs.delimiters.scan inputs.source) with
              | some text => .ok (String.ofList text)
              | none => .error .brokenOff := by
  rw [Script.run_of_silent (silent_render ..)]
  refine ⟨rfl, fun _ => answer_render_eq_failed_iff, ?_, fun inputs ready apart => ?_⟩
  · have fills (inputs : Inputs) (value? : String → Option Value) :
        (∃ text, (inputs.filledBy? value?).elim (.error .brokenOff) .ok =
            (.ok text : Except Stop String)) ↔
          ∀ occurrence ∈ inputs.delimiters.scan inputs.source,
            ¬ occurrence.BreaksOff inputs.delimiters value? := by
      have fails := @Inputs.filledBy?_eq_none_iff _ inputs value?
      cases filled : inputs.filledBy? value? with
      | none => simpa using fails.mp filled
      | some text => simpa [filled] using fails
    constructor
    · rintro ⟨text, made⟩
      obtain ⟨inputs, ready⟩ := exists_ready_of_answer_render made
      rw [answer_render_of_ready ready, Inputs.filledIn_eq] at made
      exact ⟨inputs, ready, (fills ..).mp ⟨text, made⟩⟩
    · rintro ⟨inputs, ready, goesThrough⟩
      rw [answer_render_of_ready ready, Inputs.filledIn_eq]
      exact (fills ..).mpr goesThrough
  · simp only [answer_render_of_apart ready apart, Inputs.filledBy?]
    cases replaceSpans (Occurrence.fillingBy? _ _ _) _ _ _ <;> rfl

/-- Three sources for one template, each with its own spelling of the keywords. -/
theorem render_title_of_command_line :
    let page := "\x7bSITE\x7d, \x7bTITLE\x7d, \x7bNOTE\x7d"
    let file := "\x7b\"Site\":\"a file\"\x7d"
    let files := ((Files.bare []).put ["page"] (.text page) rfl (by decide)).put ["values.json"]
      (.text file) rfl (by decide)
    let config : Config := { values := .ofList [("site", "a setting"), ("note", "a setting")] }
    (render .standard .ascending config "page" ["Title=one", "Title=two"]
        (some "values.json")).run { files } =
      (.ok "a file, two, a setting", { files }) := by
  intro page file files config
  let inputs : Inputs :=
    { delimiters := .standard, source := page
      loaded := .ofPairs [("Site", .string "a file")]
      assigned := [("Title", "one"), ("Title", "two")] }
  have parsed : DocumentReaders.standard.parse? (formOf "values.json") file =
      some (.object [("Site", .string "a file")]) := by
    have form : formOf "values.json" = .json := by decide +kernel
    have content : file.toList = ['\x7b', '"', 'S', 'i', 't', 'e', '"', ':', '"', 'a', ' ', 'f',
        'i', 'l', 'e', '"', '\x7d'] := by
      decide +kernel
    have reads : DocumentReaders.standard.parse? .json file = Json.parse? file.toList := rfl
    rw [form, reads, content]
    rfl
  have ready : inputs.Ready .standard files config "page" ["Title=one", "Title=two"]
      (some "values.json") :=
    { delimiters := by decide +kernel
      source := by decide +kernel
      loaded := .file (by decide +kernel) parsed
      assigned := .cons ⟨by decide, by decide⟩ (.cons ⟨by decide, by decide⟩ .nil) }
  have apart : inputs.Apart config :=
    { configured := by decide +kernel
      assigned := by decide +kernel }
  obtain ⟨unchanged, _, _, fills⟩ := render_reports_or_fills .standard .ascending config "page"
    ["Title=one", "Title=two"] (some "values.json") { files }
  refine Prod.ext ((fills inputs ready apart).trans ?_) unchanged
  have filled : replaceSpans (Occurrence.fillingBy? inputs.delimiters .builtin
      (inputs.value? config.values.entries inputs.assigned)) inputs.source.toList 0
      (inputs.delimiters.scan inputs.source) = some "a file, two, a setting".toList := by
    decide +kernel
  simp only [filled, String.ofList_toList]

/-- All that a run needs is there, and yet it breaks off: the date modifier takes a format that it
cannot write a moment in. -/
theorem loose_offset_breaks_off :
    let files := (Files.bare []).put ["page"] (.text "\x7bA^dateformat:%#z\x7d") rfl (by decide)
    (∃ inputs : Inputs, inputs.Ready .standard files {} "page" ["A=0"] none) ∧
      (render .standard .ascending {} "page" ["A=0"] none).run { files } =
        (.error .brokenOff, { files }) := by
  intro files
  let inputs : Inputs :=
    { delimiters := .standard, source := "\x7bA^dateformat:%#z\x7d", loaded := .empty
      assigned := [("A", "0")] }
  have ready : inputs.Ready .standard files {} "page" ["A=0"] none :=
    { delimiters := by decide +kernel
      source := by decide +kernel
      loaded := .nothing
      assigned := .cons ⟨by decide, by decide⟩ .nil }
  refine ⟨⟨inputs, ready⟩, ?_⟩
  have single : (inputs.delimiters.scan inputs.source).map (fun occurrence =>
      (occurrence.keyword, ModifierCall.ofChain inputs.delimiters occurrence.chain.toList)) =
        [("A", [⟨"dateformat", ["%#z"]⟩])] := by
    decide +kernel
  obtain ⟨occurrence, scanned, same⟩ := List.map_eq_singleton_iff.mp single
  obtain ⟨keyword, chain⟩ := Prod.mk.inj same
  have value : inputs.value? [] (Dictionary.ofList inputs.assigned).entries "A" =
      some (.string "0") := rfl
  have breaksOff : inputs.filledIn [] (Dictionary.ofList inputs.assigned).entries = none := by
    rw [Inputs.filledIn_eq]
    refine Inputs.filledBy?_eq_none_iff.mpr
      ⟨occurrence, by rw [scanned]; exact List.mem_singleton_self _, ?_⟩
    exact ⟨.string "0", [], ⟨"dateformat", ["%#z"]⟩, [], .string "0", keyword ▸ value, chain, rfl,
      ⟨by decide, _, by decide +kernel, List.mem_singleton_self _⟩, by decide +kernel⟩
  have answered : (render .standard .ascending {} "page" ["A=0"] none).answer { files } =
      .error .brokenOff := by
    rw [answer_render_of_ready ready]
    change Option.elim (inputs.filledIn [] (Dictionary.ofList inputs.assigned).entries) _ _ = _
    rw [breaksOff]
    rfl
  rw [Script.run_of_silent (silent_render ..), answered]

end CommandLine

end Stencil
