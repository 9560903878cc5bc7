import Stencil.CommandLine.Run
import Stencil.Proofs.CommandLine.Scripts
import Stencil.Proofs.Data.Outcomes
import Stencil.Proofs.Files.Access

namespace Stencil

/-! Which source a setting is taken from.

The command line wins over the environment, the environment over the configuration file and the file
over the defaults, for each setting by itself.
-/

/-- The first source that gives something decides, and without any the default stands. -/
def firstGiven {α : Type} (given environment file : Option α) (default : α) : α :=
  ((given.or environment).or file).getD default

theorem getD_eq_firstGiven {α : Type} (given environment file : Option α) (default : α) :
    given.getD (environment.getD (file.getD default)) =
      firstGiven given environment file default := by
  cases given <;> cases environment <;> rfl

def trueWords : List String := ["1", "true", "yes", "on"]

def falseWords : List String := ["0", "false", "no", "off", ""]

/-- The word in a text: without white space around it, and the letters of ASCII in lowercase. -/
def flagWord (text : String) : String :=
  String.ofList ((Unicode.trim text.toList).map Char.toLower)

theorem flagOf?_eq_some_iff {word : String} {flag : Bool} :
    flagOf? word = some flag ↔
      word ∈ trueWords ++ falseWords ∧ flag = decide (word ∈ trueWords) := by
  have words : flagOf? word = if word ∈ trueWords then some true
      else if word ∈ falseWords then some false else none := by
    simp only [flagOf?, List.contains_iff_mem]
    rfl
  rw [words]
  by_cases isTrue : word ∈ trueWords
  · simp [isTrue, eq_comm]
  · by_cases isFalse : word ∈ falseWords <;> simp [isTrue, isFalse, eq_comm]

theorem flagOf?_eq_none_iff {word : String} :
    flagOf? word = none ↔ word ∉ trueWords ++ falseWords := by
  rw [← not_iff_not, ← Ne, Option.ne_none_iff_exists', not_not]
  simp only [flagOf?_eq_some_iff, exists_and_left, exists_eq, and_true]

theorem readFlag_of_flag {name text : String} {flag : Bool}
    (known : flagOf? (flagWord text) = some flag) : readFlag name text = .ok flag := by
  rw [flagWord] at known
  simp only [readFlag, known]

theorem readFlag_of_no_flag {name text : String} (unknown : flagOf? (flagWord text) = none) :
    readFlag name text = .error ⟨name, flagWord text⟩ := by
  rw [flagWord] at unknown ⊢
  simp only [readFlag, unknown]

theorem readFlag_eq_ok_iff {name text : String} {flag : Bool} :
    readFlag name text = .ok flag ↔ flagOf? (flagWord text) = some flag := by
  cases known : flagOf? (flagWord text) with
  | none => simp [readFlag_of_no_flag known]
  | some found => simp [readFlag_of_flag known]

theorem readFlag_eq_error_iff {name text : String} {fault : FlagFault} :
    readFlag name text = .error fault ↔
      flagWord text ∉ trueWords ++ falseWords ∧ fault = ⟨name, flagWord text⟩ := by
  rw [← flagOf?_eq_none_iff]
  cases known : flagOf? (flagWord text) with
  | none => simp [readFlag_of_no_flag known, eq_comm]
  | some found => simp [readFlag_of_flag known]

/-- What the variable for letter case says, if it is set. -/
def caseVariable? (environment : Environment) : Option Bool :=
  (environment "KWDMOD_CASE_SENSITIVE").map fun text => decide (flagWord text ∈ trueWords)

/-- What a file gives for a field of a section. -/
def FileSettings.field? {α β : Type} (section? : FileSettings → Option α) (field? : α → Option β)
    (settings : Option FileSettings) : Option β :=
  (settings.bind section?).bind field?

namespace Config

/-- Each setting has its value from the command line, else from the environment, else from the
configuration file, else by default.  Only the file has values for keywords. -/
structure Effective (overrides : DelimiterOverrides) (environment : Environment)
    (settings : Option FileSettings) (config : Config) : Prop where
  keyword : config.delimiters.keyword =
    firstGiven overrides.keyword (environment "KWDMOD_KWD_DELIM")
      (FileSettings.field? (·.delimiters) (·.keyword) settings) "\x7b"
  modifier : config.delimiters.modifier =
    firstGiven overrides.modifier (environment "KWDMOD_MOD_DELIM")
      (FileSettings.field? (·.delimiters) (·.modifier) settings) "^"
  parameter : config.delimiters.parameter =
    firstGiven overrides.parameter (environment "KWDMOD_PARAM_DELIM")
      (FileSettings.field? (·.delimiters) (·.parameter) settings) ":"
  caseSensitive : config.delimiters.caseSensitive =
    firstGiven (if overrides.caseSensitive then some true else none) (caseVariable? environment)
      (FileSettings.field? (·.delimiters) (·.caseSensitive) settings) false
  level : config.logging.level =
    firstGiven none (environment "KWDMOD_LOG_LEVEL")
      (FileSettings.field? (·.logging) (some ·.level) settings) "warn"
  format : config.logging.format =
    firstGiven none (environment "KWDMOD_LOG_FORMAT")
      (FileSettings.field? (·.logging) (some ·.format) settings) "pretty"
  values : config.values = (settings.bind (·.values)).getD .empty

/-- The configuration with the variables that are set, apart from whether case counts. -/
def merged (config : Config) (environment : Environment) (caseSensitive : Bool) : Config :=
  { config with
    delimiters :=
      { keyword := (environment "KWDMOD_KWD_DELIM").getD config.delimiters.keyword
        modifier := (environment "KWDMOD_MOD_DELIM").getD config.delimiters.modifier
        parameter := (environment "KWDMOD_PARAM_DELIM").getD config.delimiters.parameter
        caseSensitive }
    logging :=
      { level := (environment "KWDMOD_LOG_LEVEL").getD config.logging.level
        format := (environment "KWDMOD_LOG_FORMAT").getD config.logging.format } }

variable {config result : Config} {environment : Environment}

theorem withEnvironment_of_unset (unset : environment "KWDMOD_CASE_SENSITIVE" = none) :
    config.withEnvironment environment =
      .ok (config.merged environment config.delimiters.caseSensitive) := by
  rw [withEnvironment, caseSensitiveVariable, unset]
  rfl

theorem withEnvironment_of_set {text : String}
    (set : environment "KWDMOD_CASE_SENSITIVE" = some text) :
    config.withEnvironment environment =
      readFlag "KWDMOD_CASE_SENSITIVE" text >>= fun flag =>
        .ok (config.merged environment flag) := by
  rw [withEnvironment, caseSensitiveVariable, set]
  rfl

theorem withEnvironment_eq_error_iff {fault : FlagFault} :
    config.withEnvironment environment = .error fault ↔
      ∃ text, environment "KWDMOD_CASE_SENSITIVE" = some text ∧
        flagWord text ∉ trueWords ++ falseWords ∧
        fault = ⟨"KWDMOD_CASE_SENSITIVE", flagWord text⟩ := by
  cases set : environment "KWDMOD_CASE_SENSITIVE" with
  | none => simp [withEnvironment_of_unset set]
  | some text => simp [withEnvironment_of_set set, bind_eq_error_iff, readFlag_eq_error_iff]

theorem eq_merged_of_withEnvironment (merges : config.withEnvironment environment = .ok result) :
    result = config.merged environment
      ((caseVariable? environment).getD config.delimiters.caseSensitive) := by
  rw [caseVariable?]
  cases set : environment "KWDMOD_CASE_SENSITIVE" with
  | none =>
      rw [withEnvironment_of_unset set] at merges
      exact (Except.ok.inj merges).symm
  | some text =>
      rw [withEnvironment_of_set set, bind_eq_ok_iff] at merges
      obtain ⟨flag, read, made⟩ := merges
      obtain ⟨_, rfl⟩ := flagOf?_eq_some_iff.mp (readFlag_eq_ok_iff.mp read)
      exact (Except.ok.inj made).symm

/-- The configuration of a file that may be missing. -/
def ofFile (settings : Option FileSettings) : Config :=
  settings.elim {} ofSettings

section

variable (settings : Option FileSettings)

theorem delimiters_ofFile :
    (ofFile settings).delimiters =
      { keyword := (FileSettings.field? (·.delimiters) (·.keyword) settings).getD "\x7b"
        modifier := (FileSettings.field? (·.delimiters) (·.modifier) settings).getD "^"
        parameter := (FileSettings.field? (·.delimiters) (·.parameter) settings).getD ":"
        caseSensitive :=
          (FileSettings.field? (·.delimiters) (·.caseSensitive) settings).getD false } := by
  match settings with
  | none => rfl
  | some { delimiters := none, .. } => rfl
  | some { delimiters := some fields, .. } => rfl

theorem logging_ofFile :
    (ofFile settings).logging =
      { level := (FileSettings.field? (·.logging) (some ·.level) settings).getD "warn"
        format := (FileSettings.field? (·.logging) (some ·.format) settings).getD "pretty" } := by
  match settings with
  | none => rfl
  | some { logging := none, .. } => rfl
  | some { logging := some logging, .. } => rfl

theorem values_ofFile : (ofFile settings).values = (settings.bind (·.values)).getD .empty := by
  cases settings <;> rfl

end

/-- Each layer takes over what the layer below leaves open. -/
theorem effective_merged (settings : Option FileSettings) (overrides : DelimiterOverrides)
    (environment : Environment) :
    let file := ofFile settings
    ((file.merged environment
      ((caseVariable? environment).getD file.delimiters.caseSensitive)).withOverrides
        overrides).Effective overrides environment settings := by
  simp only [withOverrides, merged, delimiters_ofFile, logging_ofFile, values_ofFile]
  constructor
  case keyword | modifier | parameter => exact getD_eq_firstGiven ..
  case caseSensitive =>
    rw [← getD_eq_firstGiven]
    cases overrides.caseSensitive <;> rfl
  case level | format => exact getD_eq_firstGiven none ..
  case values => rfl

end Config

namespace CommandLine

/-- The path of the configuration file: the given one, else the first of the usual ones that leads
to something. -/
def configPath (files : Files) (home given : Option String) : String :=
  given.getD (((configPlaces home).find? files.isThere).getD defaultConfigName)

/-- The settings of a configuration file that can be read, or none if there is no file. -/
inductive ReadsConfig (documents : DocumentReaders) (files : Files) (path : String) :
    Option FileSettings → Prop where
  | missing : files.isThere path = false → ReadsConfig documents files path none
  | file {text : String} {settings : FileSettings} :
      files.read path = .ok text → documents.settings text = some settings →
        ReadsConfig documents files path (some settings)

variable {surroundings : Surroundings} {documents : DocumentReaders} {arguments : Arguments}
  {world : World} {home given : Option String} {path : String} {settings : Option FileSettings}

theorem silent_firstThere (paths : List String) : (firstThere paths).Silent := by
  induction paths with
  | nil => exact .done none
  | cons path rest restIH =>
      refine .isThere fun found => ?_
      cases found
      · exact restIH
      · exact .done (some path)

theorem answer_firstThere (paths : List String) (world : World) :
    (firstThere paths).answer world = .ok (paths.find? world.files.isThere) := by
  induction paths with
  | nil => rfl
  | cons path rest restIH =>
      rw [firstThere, Script.answer, Script.run, List.find?_cons]
      cases world.files.isThere path
      · exact restIH
      · rfl

theorem silent_findConfig (home given : Option String) : (findConfig home given).Silent := by
  cases given with
  | some path => exact .done path
  | none => exact (silent_firstThere _).bind fun _ => .done _

theorem answer_findConfig :
    (findConfig home given).answer world = .ok (configPath world.files home given) := by
  cases given with
  | some path => rfl
  | none =>
      rw [findConfig, Script.answer_bind_of_ok (silent_firstThere _) (answer_firstThere ..)]
      rfl

theorem silent_loadFile (documents : DocumentReaders) (path : String) :
    (loadFile documents path).Silent := by
  refine .isThere fun found => ?_
  cases found
  · exact .done _
  · exact (Script.reads_readText ..).bind fun _ => Script.reads_orFail _

theorem ReadsConfig.answer_loadFile (reads : ReadsConfig documents world.files path settings) :
    (loadFile documents path).answer world = .ok (.ofFile settings) := by
  rw [loadFile, Script.answer, Script.run]
  cases reads with
  | missing nothing =>
      rw [nothing]
      rfl
  | file read known =>
      rw [Files.isThere_of_read read, if_pos rfl, ← Script.answer,
        Script.answer_bind (Script.reads_readText ..), Script.answer_readText, read]
      simp only [Except.mapError, bind, Except.bind, configOf, known]
      rfl

theorem silent_loadConfig (surroundings : Surroundings) (arguments : Arguments) :
    (loadConfig surroundings arguments).Silent := by
  refine (silent_findConfig ..).bind fun path => (silent_loadFile ..).bind fun config => ?_
  exact (Script.reads_orFail _).bind fun config => .done _

theorem ReadsConfig.answer_loadConfig
    (reads : ReadsConfig surroundings.documents world.files
      (configPath world.files surroundings.home arguments.config) settings) :
    (loadConfig surroundings arguments).answer world =
      (((Config.ofFile settings).withEnvironment surroundings.environment).mapError
          Failure.flag).mapError Stop.failed >>= fun config =>
        .ok (config.withOverrides arguments.overrides) := by
  rw [loadConfig, Script.answer_bind_of_ok (silent_findConfig ..) answer_findConfig,
    Script.answer_bind_of_ok (silent_loadFile ..) reads.answer_loadFile,
    Script.answer_bind (Script.reads_orFail _), Script.answer_orFail]
  rfl

/-- With a configuration file that can be read or without one, a run has a configuration unless the
variable for letter case is neither true nor false, and changes nothing on the way.  Each setting is
taken from the first source that gives it, whatever the other settings are, and the values are those
of the file. -/
theorem effective_settings
    (reads : ReadsConfig surroundings.documents world.files
      (configPath world.files surroundings.home arguments.config) settings) :
    let loaded := (loadConfig surroundings arguments).run world
    loaded.2 = world ∧
      (∀ reason, loaded.1 = .error reason ↔
        ∃ text, surroundings.environment "KWDMOD_CASE_SENSITIVE" = some text ∧
          flagWord text ∉ trueWords ++ falseWords ∧
          reason = .failed (.flag ⟨"KWDMOD_CASE_SENSITIVE", flagWord text⟩)) ∧
      ∀ config, loaded.1 = .ok config →
        config.Effective arguments.overrides surroundings.environment settings := by
  rw [Script.run_of_silent (silent_loadConfig ..), reads.answer_loadConfig]
  refine ⟨rfl, fun reason => ?_, fun config made => ?_⟩
  · simp only [bind_eq_error_iff, mapError_eq_error_iff, Config.withEnvironment_eq_error_iff,
      reduceCtorEq, and_false, exists_false, or_false]
    constructor
    · rintro ⟨_, ⟨_, ⟨text, set, unreadable, rfl⟩, rfl⟩, rfl⟩
      exact ⟨text, set, unreadable, rfl⟩
    · rintro ⟨text, set, unreadable, rfl⟩
      exact ⟨_, ⟨_, ⟨text, set, unreadable, rfl⟩, rfl⟩, rfl⟩
  · obtain ⟨merged, merges, made⟩ := bind_eq_ok_iff.mp made
    cases made
    rw [mapError_eq_ok_iff, mapError_eq_ok_iff] at merges
    obtain rfl := Config.eq_merged_of_withEnvironment merges
    exact Config.effective_merged ..

/-- The keyword delimiter is set to an empty text, which wins over the file, and the parameter
delimiter is given. -/
theorem effective_settings_layered :
    let text := "delimiters:\n  kwd_delim: '['\n  mod_delim: '|'\nvalues:\n  A: b\n"
    let files := (Files.bare []).put ["kwdmod.yml"] (.text text) rfl (by decide)
    let environment : Environment := fun name =>
      if name = "KWDMOD_KWD_DELIM" then some ""
      else if name = "KWDMOD_CASE_SENSITIVE" then some " Yes"
      else none
    let surroundings : Surroundings :=
      { environment, home := none, documents := .standard, orders := .ascending }
    let arguments : Arguments :=
      { command := .check, config := none, overrides := { parameter := some "#" }
        verbose := false, noColor := false }
    (∃ settings, ReadsConfig .standard files (configPath files none none) settings) ∧
      ∃ config, (loadConfig surroundings arguments).run { files } = (.ok config, { files }) ∧
        config.delimiters.keyword = "" ∧ config.delimiters.modifier = "|" ∧
        config.delimiters.parameter = "#" ∧ config.delimiters.caseSensitive = true ∧
        config.logging.level = "warn" ∧ config.values.get? "A" = some "b" := by
  intro text files environment surroundings arguments
  have found : files.read (configPath files none none) = .ok text := by decide +kernel
  have isConfig : (FileSettings.parse? text).isSome := by decide +kernel
  obtain ⟨settings, known⟩ := Option.isSome_iff_exists.mp isConfig
  have reads : ReadsConfig surroundings.documents files
      (configPath files surroundings.home arguments.config) (some settings) := .file found known
  refine ⟨⟨_, reads⟩, ?_⟩
  rw [← known] at reads
  obtain ⟨unchanged, fails, effective⟩ := @effective_settings surroundings arguments { files } _
    reads
  cases made : ((loadConfig surroundings arguments).run { files }).1 with
  | error reason =>
      obtain ⟨text, set, unreadable, _⟩ := (fails reason).mp made
      cases set
      exact absurd (by decide +kernel) unreadable
  | ok config =>
      have settled := effective config made
      exact ⟨config, Prod.ext made unchanged, settled.keyword.trans rfl,
        settled.modifier.trans (by decide +kernel), settled.parameter.trans rfl,
        settled.caseSensitive.trans (by decide +kernel),
        settled.level.trans (by decide +kernel),
        (congrArg (Dictionary.get? · "A") settled.values).trans (by decide +kernel)⟩

end CommandLine

end Stencil
