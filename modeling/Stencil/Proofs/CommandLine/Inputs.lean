import Mathlib.Data.List.TakeWhile
import Stencil.CommandLine.Render
import Stencil.Proofs.CommandLine.Scripts
import Stencil.Proofs.Data.Outcomes

namespace Stencil.CommandLine

/-! What filling in a file takes, and what can be wrong with it.

Delimiters, template, values and assignments are read one after the other.  Each of them can be
wrong by itself, so the problems of a run are ranked, and the one of the lowest rank is reported.
-/

/-- The argument is the key, an equals sign and the text. -/
def Assigns (argument : String) (assignment : String × String) : Prop :=
  argument.toList = assignment.1.toList ++ '=' :: assignment.2.toList ∧
    '=' ∉ assignment.1.toList

theorem readAssignment_of_notMem {argument : String} (missing : '=' ∉ argument.toList) :
    readAssignment argument = .error ⟨argument⟩ := by
  have nothing : argument.toList.dropWhile (· != '=') = [] := by
    rw [List.dropWhile_eq_nil_iff]
    intro c member
    rw [bne_iff_ne]
    rintro rfl
    exact missing member
  rw [readAssignment]
  simp only [nothing]

theorem readAssignment_of_assigns {argument : String} {assignment : String × String}
    (assigns : Assigns argument assignment) : readAssignment argument = .ok assignment := by
  obtain ⟨whole, keyFree⟩ := assigns
  have skipped : ∀ c ∈ assignment.1.toList, (c != '=') = true := by
    intro c member
    rw [bne_iff_ne]
    rintro rfl
    exact keyFree member
  have key : argument.toList.takeWhile (· != '=') = assignment.1.toList := by
    rw [whole, List.takeWhile_append_of_pos skipped, List.takeWhile_cons_of_neg (by simp),
      List.append_nil]
  have text : argument.toList.dropWhile (· != '=') = '=' :: assignment.2.toList := by
    rw [whole, List.dropWhile_append_of_pos skipped, List.dropWhile_cons_of_neg (by simp)]
  rw [readAssignment]
  simp only [key, text, String.ofList_toList]

theorem exists_assigns {argument : String} (member : '=' ∈ argument.toList) :
    ∃ assignment, Assigns argument assignment := by
  obtain ⟨key, text, whole, keyFree⟩ := List.eq_append_cons_of_mem member
  refine ⟨(String.ofList key, String.ofList text), ?_, ?_⟩
  · rw [whole, String.toList_ofList, String.toList_ofList]
  · rwa [String.toList_ofList]

theorem readAssignment_eq_ok_iff {argument : String} {assignment : String × String} :
    readAssignment argument = .ok assignment ↔ Assigns argument assignment := by
  constructor
  · intro succeeded
    by_cases member : '=' ∈ argument.toList
    · obtain ⟨other, assigns⟩ := exists_assigns member
      cases succeeded.symm.trans (readAssignment_of_assigns assigns)
      exact assigns
    · cases succeeded.symm.trans (readAssignment_of_notMem member)
  · exact readAssignment_of_assigns

theorem readAssignments_eq_ok_iff {arguments : List String} {texts : Dictionary String} :
    readAssignments arguments = .ok texts ↔
      ∃ assigned, List.Forall₂ Assigns arguments assigned ∧ texts = .ofList assigned := by
  have each (assigned : List (String × String)) :
      arguments.mapM readAssignment = .ok assigned ↔ List.Forall₂ Assigns arguments assigned := by
    simp only [mapM_eq_ok_iff, readAssignment_eq_ok_iff]
  simp only [readAssignments, ← each]
  cases arguments.mapM readAssignment <;> simp [Except.map, eq_comm]

theorem readAssignments_eq_error_iff {arguments : List String} {fault : AssignmentFault} :
    readAssignments arguments = .error fault ↔
      ∃ before argument after, arguments = before ++ argument :: after ∧
        '=' ∉ argument.toList ∧ fault = ⟨argument⟩ ∧ ∀ other ∈ before, '=' ∈ other.toList := by
  have failed (argument : String) : readAssignment argument = .error fault ↔
      '=' ∉ argument.toList ∧ fault = ⟨argument⟩ := by
    by_cases member : '=' ∈ argument.toList
    · obtain ⟨assignment, assigns⟩ := exists_assigns member
      simp [readAssignment_of_assigns assigns, member]
    · simp [readAssignment_of_notMem member, member, eq_comm]
  have succeeded (argument : String) : (∃ assignment, readAssignment argument = .ok assignment) ↔
      '=' ∈ argument.toList := by
    by_cases member : '=' ∈ argument.toList
    · obtain ⟨assignment, assigns⟩ := exists_assigns member
      simp [readAssignment_of_assigns assigns, member]
    · simp [readAssignment_of_notMem member, member]
  have mapped : readAssignments arguments = .error fault ↔
      arguments.mapM readAssignment = .error fault := by
    rw [readAssignments]
    cases arguments.mapM readAssignment <;> simp [Except.map]
  simp only [mapped, mapM_eq_error_iff, failed, succeeded, and_assoc]

/-- The values that a run starts from: none without a file, else those of the object in it. -/
inductive Loads (documents : DocumentReaders) (files : Files) :
    Option String → KeywordValues → Prop where
  | nothing : Loads documents files none .empty
  | file {path text : String} {fields : List (String × Value)} :
      files.read path = .ok text →
        documents.parse? (formOf path) text = some (.object fields) →
          Loads documents files (some path) (.ofPairs fields)

/-- All that a run of the command has read before it fills the template in. -/
structure Inputs where
  delimiters : Delimiters
  source : String
  loaded : KeywordValues
  /-- What the assignments say, in the order in which they are given. -/
  assigned : List (String × String)

section

variable (documents : DocumentReaders) (files : Files) (config : Config) (template : String)
  (assignments : List String) (values : Option String)

structure Inputs.Ready (inputs : Inputs) : Prop where
  delimiters : config.delimiters.validate = .ok inputs.delimiters
  source : files.read template = .ok inputs.source
  loaded : Loads documents files values inputs.loaded
  assigned : List.Forall₂ Assigns assignments inputs.assigned

/-- A problem with its rank.  It is one by itself, whatever other problems there are. -/
inductive Problem : Nat → Failure → Prop where
  | delimiters {fault : DelimiterFault} :
      config.delimiters.validate = .error fault → Problem 0 (.delimiters fault)
  | template {fault : FileFault} :
      files.read template = .error fault → Problem 1 (.templateUnreadable template fault)
  | values {path : String} {fault : FileFault} :
      values = some path → files.read path = .error fault →
        Problem 2 (.valuesUnreadable path fault)
  | document {path text : String} :
      values = some path → files.read path = .ok text →
        documents.parse? (formOf path) text = none →
          Problem 2 (.valuesMalformed path (formOf path))
  | mapping {path text : String} {value : Value} :
      values = some path → files.read path = .ok text →
        documents.parse? (formOf path) text = some value → value.kind ≠ .object →
          Problem 2 (.valuesNotMapping path (.notFields value))
  | assignment {before after : List String} {argument : String} :
      assignments = before ++ argument :: after → '=' ∉ argument.toList →
        Problem (before.length + 3) (.assignment ⟨argument⟩)

end

/-- The failure is a problem of the lowest rank at which there is one. -/
def First (problem : Nat → Failure → Prop) (failure : Failure) : Prop :=
  ∃ rank, problem rank failure ∧ ∀ earlier < rank, ∀ other, ¬ problem earlier other

theorem first_iff {problem : Nat → Failure → Prop} {failure : Failure} :
    First problem failure ↔ problem 0 failure ∨
      (∀ other, ¬ problem 0 other) ∧ First (fun rank => problem (rank + 1)) failure := by
  constructor
  · rintro ⟨rank, here, lowest⟩
    cases rank with
    | zero => exact .inl here
    | succ rank =>
        exact .inr ⟨lowest 0 (Nat.succ_pos rank), rank, here,
          fun earlier lower => lowest (earlier + 1) (Nat.succ_lt_succ lower)⟩
  · rintro (here | ⟨none, rank, here, lowest⟩)
    · exact ⟨0, here, fun earlier lower => absurd lower (Nat.not_lt_zero earlier)⟩
    · refine ⟨rank + 1, here, fun earlier lower => ?_⟩
      cases earlier with
      | zero => exact none
      | succ earlier => exact lowest earlier (Nat.lt_of_succ_lt_succ lower)

/-- What a stage reports comes before all that the stages after it report. -/
theorem bind_eq_failed_iff_first {α β : Type} {stage : Except Failure α}
    {next : α → Except Stop β} {problem : Nat → Failure → Prop} {failure : Failure}
    (here : ∀ other, stage = .error other ↔ problem 0 other)
    (later : ∀ value, next value = .error (.failed failure) ↔
      First (fun rank => problem (rank + 1)) failure) :
    stage.mapError Stop.failed >>= next = .error (.failed failure) ↔ First problem failure := by
  rw [first_iff]
  simp only [← here]
  cases stage with
  | error found => simp [bind, Except.bind, Except.mapError]
  | ok value => simpa [bind, Except.bind, Except.mapError] using later value

variable {documents : DocumentReaders} {files : Files} {config : Config} {template : String}
  {assignments : List String} {values : Option String} {failure : Failure}

theorem validDelimiters_eq_error_iff : validDelimiters config = .error failure ↔
    Problem documents files config template assignments values 0 failure := by
  rw [validDelimiters, mapError_eq_error_iff]
  constructor
  · rintro ⟨fault, invalid, rfl⟩
    exact .delimiters invalid
  · intro problem
    cases problem with
    | delimiters invalid => exact ⟨_, invalid, rfl⟩

theorem templateText_eq_error_iff :
    (files.read template).mapError (Failure.templateUnreadable template) = .error failure ↔
      Problem documents files config template assignments values 1 failure := by
  rw [mapError_eq_error_iff]
  constructor
  · rintro ⟨fault, unreadable, rfl⟩
    exact .template unreadable
  · intro problem
    cases problem with
    | template unreadable => exact ⟨_, unreadable, rfl⟩

theorem ofValue_eq_ok_iff {value : Value} {loaded : KeywordValues} :
    KeywordValues.ofValue value = .ok loaded ↔
      ∃ fields, value = .object fields ∧ loaded = .ofPairs fields := by
  cases value <;> simp [KeywordValues.ofValue, eq_comm]

theorem ofValue_eq_error_iff {value : Value} {fault : ArgumentFault} :
    KeywordValues.ofValue value = .error fault ↔
      value.kind ≠ .object ∧ fault = .notFields value := by
  cases value <;> simp [KeywordValues.ofValue, Value.kind, eq_comm]

/-- What a run loads from a file with values, if there is one. -/
def loadedValues (documents : DocumentReaders) (files : Files) :
    Option String → Except Failure KeywordValues
  | none => .ok .empty
  | some path => do
      let text ← (files.read path).mapError (Failure.valuesUnreadable path)
      valuesOf documents path text

theorem silent_loadOptionalValues (documents : DocumentReaders) (values : Option String) :
    (loadOptionalValues documents values).Silent := by
  cases values with
  | none => exact .done _
  | some path => exact (Script.reads_readText ..).bind fun _ => Script.reads_orFail _

theorem answer_loadOptionalValues (world : World) :
    (loadOptionalValues documents values).answer world =
      (loadedValues documents world.files values).mapError Stop.failed := by
  cases values with
  | none => rfl
  | some path =>
      rw [loadOptionalValues, loadValues, Script.answer_bind (Script.reads_readText ..),
        Script.answer_readText, loadedValues]
      cases world.files.read path with
      | error fault => rfl
      | ok text => exact Script.answer_orFail _ world

theorem loadedValues_eq_ok_iff {loaded : KeywordValues} :
    loadedValues documents files values = .ok loaded ↔ Loads documents files values loaded := by
  cases values with
  | none =>
      constructor
      · intro succeeded
        cases succeeded
        exact .nothing
      · intro loads
        cases loads
        rfl
  | some path =>
      rw [loadedValues, bind_eq_ok_iff]
      simp only [mapError_eq_ok_iff]
      constructor
      · rintro ⟨text, reading, made⟩
        cases parsed : documents.parse? (formOf path) text with
        | none =>
            rw [valuesOf, parsed] at made
            cases made
        | some value =>
            simp only [valuesOf, parsed, mapError_eq_ok_iff, ofValue_eq_ok_iff] at made
            obtain ⟨fields, rfl, rfl⟩ := made
            exact .file reading parsed
      · intro loads
        cases loads with
        | file reading parsed =>
            refine ⟨_, reading, ?_⟩
            simp only [valuesOf, parsed]
            rfl

theorem loadedValues_eq_error_iff : loadedValues documents files values = .error failure ↔
    Problem documents files config template assignments values 2 failure := by
  cases values with
  | none =>
      constructor
      · intro failed
        cases failed
      · intro problem
        cases problem <;> contradiction
  | some path =>
      rw [loadedValues, bind_eq_error_iff]
      simp only [mapError_eq_ok_iff, mapError_eq_error_iff]
      constructor
      · rintro (⟨fault, unreadable, rfl⟩ | ⟨text, reading, refused⟩)
        · exact .values rfl unreadable
        · cases parsed : documents.parse? (formOf path) text with
          | none =>
              rw [valuesOf, parsed] at refused
              cases refused
              exact .document rfl reading parsed
          | some value =>
              simp only [valuesOf, parsed, mapError_eq_error_iff, ofValue_eq_error_iff] at refused
              obtain ⟨fault, ⟨noObject, rfl⟩, rfl⟩ := refused
              exact .mapping rfl reading parsed noObject
      · intro problem
        cases problem with
        | values same unreadable =>
            cases same
            exact .inl ⟨_, unreadable, rfl⟩
        | document same reading malformed =>
            cases same
            refine .inr ⟨_, reading, ?_⟩
            simp only [valuesOf, malformed]
        | mapping same reading parsed noObject =>
            cases same
            refine .inr ⟨_, reading, ?_⟩
            simp only [valuesOf, parsed, mapError_eq_error_iff, ofValue_eq_error_iff]
            exact ⟨_, ⟨noObject, rfl⟩, rfl⟩

/-- The text of the template with the values of the configuration and of the command line in the
order in which they are listed. -/
def Inputs.filledIn [Regex.Limits] (inputs : Inputs)
    (configured assigned : List (String × String)) : Option String :=
  (Template.parse inputs.delimiters .builtin inputs.source).populateValues
    (extendTexts ((extendTexts .empty configured).extend inputs.loaded) assigned)

theorem readAssignments_eq_first_iff :
    (readAssignments assignments).mapError Failure.assignment = .error failure ↔
      First (fun rank => Problem documents files config template assignments values (rank + 3))
        failure := by
  simp only [mapError_eq_error_iff, readAssignments_eq_error_iff]
  constructor
  · rintro ⟨_, ⟨before, argument, after, whole, missing, rfl, earlier⟩, rfl⟩
    refine ⟨before.length, .assignment whole missing, fun rank lower other problem => ?_⟩
    cases problem with
    | @assignment otherBefore otherAfter other otherWhole otherMissing =>
        have here : assignments[otherBefore.length]? = some other := by simp [otherWhole]
        rw [whole, List.getElem?_append_left lower] at here
        exact otherMissing (earlier other (List.mem_of_getElem? here))
  · rintro ⟨rank, problem, lowest⟩
    cases problem with
    | @assignment before after argument whole missing =>
        refine ⟨_, ⟨before, argument, after, whole, missing, rfl, fun other member => ?_⟩, rfl⟩
        refine Decidable.byContradiction fun otherMissing => ?_
        obtain ⟨first, last, rfl⟩ := List.append_of_mem member
        have split : assignments = first ++ other :: (last ++ argument :: after) := by
          rw [whole, List.append_assoc, List.cons_append]
        exact lowest first.length (by simp) _ (.assignment split otherMissing)

section

variable [Regex.Limits] {orders : Orders} {world : World}

theorem silent_render (documents : DocumentReaders) (orders : Orders) (config : Config)
    (template : String) (assignments : List String) (values : Option String) :
    (render documents orders config template assignments values).Silent := by
  refine (Script.reads_orFail _).bind fun d => (Script.reads_readText ..).bind fun source => ?_
  refine (silent_loadOptionalValues ..).bind fun loaded => ?_
  exact (Script.reads_orFail _).bind fun assigned => Script.reads_orBreakOff _

theorem answer_render :
    (render documents orders config template assignments values).answer world =
      (validDelimiters config).mapError Stop.failed >>= fun d =>
        ((world.files.read template).mapError (Failure.templateUnreadable template)).mapError
            Stop.failed >>= fun source =>
          (loadedValues documents world.files values).mapError Stop.failed >>= fun loaded =>
            ((readAssignments assignments).mapError Failure.assignment).mapError
                Stop.failed >>= fun assigned =>
              (Inputs.filledIn ⟨d, source, loaded, []⟩
                (orders.configured.entries config.values)
                (orders.assigned.entries assigned)).elim (.error .brokenOff) .ok := by
  rw [render, Script.answer_bind (Script.reads_orFail _), Script.answer_orFail]
  refine congrArg _ (funext fun d => ?_)
  rw [readTemplate, Script.answer_bind (Script.reads_readText ..), Script.answer_readText]
  refine congrArg _ (funext fun source => ?_)
  rw [Script.answer_bind (silent_loadOptionalValues ..), answer_loadOptionalValues]
  refine congrArg _ (funext fun loaded => ?_)
  rw [Script.answer_bind (Script.reads_orFail _), Script.answer_orFail]
  refine congrArg _ (funext fun assigned => ?_)
  exact Script.answer_orBreakOff _ world

/-- A run that has all its inputs fills the template in. -/
theorem answer_render_of_ready {inputs : Inputs}
    (ready : inputs.Ready documents world.files config template assignments values) :
    (render documents orders config template assignments values).answer world =
      (inputs.filledIn (orders.configured.entries config.values)
        (orders.assigned.entries (.ofList inputs.assigned))).elim (.error .brokenOff) .ok := by
  have valid : validDelimiters config = .ok inputs.delimiters :=
    mapError_eq_ok_iff.mpr ready.delimiters
  have loaded := loadedValues_eq_ok_iff.mpr ready.loaded
  have assigned := readAssignments_eq_ok_iff.mpr ⟨_, ready.assigned, rfl⟩
  rw [answer_render, valid, ready.source, loaded, assigned]
  rfl

/-- A run that fills the template in has all its inputs. -/
theorem exists_ready_of_answer_render {text : String}
    (made : (render documents orders config template assignments values).answer world =
      .ok text) :
    ∃ inputs : Inputs, inputs.Ready documents world.files config template assignments values := by
  simp only [answer_render, validDelimiters, bind_eq_ok_iff, mapError_eq_ok_iff,
    loadedValues_eq_ok_iff, readAssignments_eq_ok_iff] at made
  obtain ⟨d, valid, source, readable, loaded, loads, _, ⟨assigned, assigns, rfl⟩, _⟩ := made
  exact ⟨⟨d, source, loaded, assigned⟩, ⟨valid, readable, loads, assigns⟩⟩

/-- A run that lacks something reports the first problem there is. -/
theorem answer_render_eq_failed_iff :
    (render documents orders config template assignments values).answer world =
        .error (.failed failure) ↔
      First (Problem documents world.files config template assignments values) failure := by
  rw [answer_render]
  refine bind_eq_failed_iff_first (fun _ => validDelimiters_eq_error_iff) fun d => ?_
  refine bind_eq_failed_iff_first (fun _ => templateText_eq_error_iff) fun source => ?_
  refine bind_eq_failed_iff_first (fun _ => loadedValues_eq_error_iff) fun loaded => ?_
  rw [← readAssignments_eq_first_iff, bind_eq_error_iff, mapError_eq_error_iff]
  constructor
  · rintro (⟨_, failed, same⟩ | ⟨assigned, _, made⟩)
    · cases same
      exact failed
    · cases filled : Inputs.filledIn ⟨d, source, loaded, []⟩ _ _ <;> rw [filled] at made <;>
        cases made
  · exact fun failed => .inl ⟨failure, failed, rfl⟩

end

end Stencil.CommandLine
