import AssistedDialing.CommandLine.Call
import AssistedDialing.NumberingPlan.World

/-!
# What a call leaves behind

A command that works under settings loads them and configures logging first. `setup_all_or_nothing`
says what becomes of the logging and how such a call ends. Either the settings are loaded and their
level is known, and then logging is replaced as a whole, or it is left alone. A call ends with the
code 0 or with a reported error, except in two cases: the settings name an unknown level, or a
number is checked under settings that cannot be written out.
-/

namespace AssistedDialing.CommandLine

open Log (Level)

namespace Failure

/-- `failure.IsReported` says that the program reports the failure itself: it prints a line that
begins with `Error: `, lets nothing else through and exits with the code 1. -/
def IsReported (failure : Failure) : Prop :=
  failure.exitCode = 1 ∧ "Error: ".toList <+: failure.text.toList ∧ failure.unreported? = none

/-- Of the failures with the code 1, those of the configuration are reported. -/
theorem isReported_iff {failure : Failure} :
    failure.IsReported ↔ ∃ error, failure = .configuration error := by
  constructor
  · rintro ⟨hcode, -, hescapes⟩
    cases failure with
    | configuration error => exact ⟨error, rfl⟩
    | nothingAsked | usage => cases hcode
    | unknownLevel | nullInPath | unusableSettings => cases hescapes
  · rintro ⟨error, rfl⟩
    refine ⟨rfl, ?_, rfl⟩
    simp only [text, configurationText, errorText, String.toList_append, List.append_assoc]
    exact List.prefix_append _ _

theorem exitCode_ne_zero (failure : Failure) : failure.exitCode ≠ 0 := by
  cases failure <;> simp [exitCode]

end Failure

namespace Outcome

variable {σ : Type} {outcome : Outcome σ}

/-- `outcome.EndsWell` says that a call succeeds or reports its failure. -/
def EndsWell (outcome : Outcome σ) : Prop :=
  outcome.exitCode = 0 ∨ ∃ failure, outcome.failure = some failure ∧ failure.IsReported

theorem exitCode_eq_zero_iff : outcome.exitCode = 0 ↔ outcome.failure = none := by
  rw [exitCode]
  cases outcome.failure with
  | none => simp
  | some failure => simp [failure.exitCode_ne_zero]

theorem exitCode_of_some {failure : Failure} (h : outcome.failure = some failure) :
    outcome.exitCode = failure.exitCode := by
  rw [exitCode, h]
  rfl

theorem endsWell_of_none (h : outcome.failure = none) : outcome.EndsWell :=
  .inl (exitCode_eq_zero_iff.mpr h)

/-- A call that fails ends well when the configuration is at fault. -/
theorem endsWell_iff_of_some {failure : Failure} (h : outcome.failure = some failure) :
    outcome.EndsWell ↔ ∃ error, failure = .configuration error := by
  rw [EndsWell, exitCode_eq_zero_iff, h, ← Failure.isReported_iff]
  simp

end Outcome

namespace Request

/-- `request.config?` is the settings file that a request names or does not name, if it is answered
under settings at all. -/
def config? : Request → Option (Option String)
  | .check _ _ config | .countries config => some config
  | .version | .help _ => none

/-- `request.answer plan settings` is the answer to a request under settings. -/
def answer (plan : NumberingPlan) (settings : Settings) : Request → Answer
  | .check inquiry json _ => .ofCheck plan settings inquiry json
  | .countries _ => .ofCountries settings
  | .version | .help _ => {}

/-- `request.accepts settings` holds when a request can be answered under these settings. -/
def accepts (settings : Settings) : Request → Bool
  | .check _ _ _ => settings.isUsable
  | _ => true

theorem failure_answer (plan : NumberingPlan) (settings : Settings) (request : Request) :
    (request.answer plan settings).failure =
      if request.accepts settings then none else some .unusableSettings := by
  cases request with
  | check inquiry json config =>
      rw [answer, accepts, Answer.ofCheck]
      split <;> rfl
  | version | help | countries => rfl

end Request

namespace Call

variable {σ : Type} {call : Call σ} {arguments : List String} {request : Request}
  {config : Option String}

/-- A request that is answered under settings sets logging up and then gives its answer. -/
theorem run_eq_configured (hasked : Request.ofArguments call.host arguments = .ok request)
    (hconfig : request.config? = some config) :
    call.run arguments = call.configured config fun settings ↦
      request.answer call.plan settings := by
  rw [run, hasked]
  cases request with
  | version | help => cases hconfig
  | check inquiry json path | countries path => cases hconfig; rfl

/-- `loggingUnder settings level stream` is the logging that settings ask for: their level and one
handler. -/
def loggingUnder (settings : Settings) (level : Level) (stream : σ) : Log.Root σ where
  level := level
  handler := some ⟨stream, if settings.jsonLogging then .json else .text⟩

/-- A call loads no settings, or settings of an unknown level, and then fails and changes nothing,
or it replaces the logging and gives its answer. -/
theorem configured_cases (call : Call σ) (config : Option String) (answer : Settings → Answer) :
    let loaded := (Settings.load call.host config none).settings
    let outcome := call.configured config answer
    (∃ error, loaded = .error error ∧ outcome.failure = some (.configuration error) ∧
        outcome.logging = call.logging ∧ outcome.output = "") ∨
      (∃ settings error, loaded = .ok settings ∧ Level.ofName? settings.logLevel = none ∧
        outcome.failure = some (.unknownLevel error) ∧ outcome.logging = call.logging ∧
        outcome.output = "") ∨
      ∃ settings level, loaded = .ok settings ∧ Level.ofName? settings.logLevel = some level ∧
        outcome.failure = (answer settings).failure ∧
        outcome.logging = loggingUnder settings level call.standardError ∧
        outcome.output = (answer settings).output := by
  intro loaded outcome
  have hloaded : (Settings.load call.host config none).settings = loaded := rfl
  have houtcome : outcome = call.configured config answer := rfl
  clear_value loaded outcome
  rw [configured, hloaded] at houtcome
  -- the two steps that can fail: the settings are loaded, and their level is looked up
  cases loaded with
  | error error => exact .inl ⟨error, rfl, by simp [houtcome]⟩
  | ok settings =>
      cases hlevel : Level.ofName? settings.logLevel with
      | none =>
          simp only [Log.Root.configure, hlevel] at houtcome
          refine .inr (.inl ⟨settings, ⟨Text.upper settings.logLevel⟩, rfl, hlevel, ?_⟩)
          simp [houtcome]
      | some level =>
          simp only [Log.Root.configure, hlevel] at houtcome
          exact .inr (.inr ⟨settings, level, rfl, hlevel, by simp [houtcome, loggingUnder]⟩)

/-- The setting up of a call is all or nothing: loaded settings of a known level replace the
logging, with one handler, and otherwise the call fails, prints nothing and leaves the logging as it
was. The call ends well unless the settings name an unknown level or cannot be written out for a
check. -/
theorem setup_all_or_nothing (call : Call σ)
    (hasked : Request.ofArguments call.host arguments = .ok request)
    (hconfig : request.config? = some config) :
    let loaded := (Settings.load call.host config none).settings
    let outcome := call.run arguments
    (∀ settings level, loaded = .ok settings → Level.ofName? settings.logLevel = some level →
      outcome.logging = loggingUnder settings level call.standardError ∧
        outcome.logging.handlerCount = 1 ∧
        (outcome.exitCode = 0 ↔ request.accepts settings = true)) ∧
      ((∀ settings, loaded = .ok settings → Level.ofName? settings.logLevel = none) →
        outcome.logging = call.logging ∧ outcome.output = "" ∧ outcome.exitCode = 1) ∧
      (outcome.EndsWell ↔ ∀ settings, loaded = .ok settings →
        (Level.ofName? settings.logLevel).isSome = true ∧ request.accepts settings = true) := by
  intro loaded outcome
  have hanswer (settings : Settings) : (request.answer call.plan settings).failure =
      if request.accepts settings then none else some .unusableSettings :=
    request.failure_answer call.plan settings
  have hrun : outcome = call.configured config fun settings ↦ request.answer call.plan settings :=
    run_eq_configured hasked hconfig
  have hcases := configured_cases call config fun settings ↦ request.answer call.plan settings
  simp only [← hrun] at hcases
  obtain ⟨error, hload, hfailure, hlogging, houtput⟩ |
    ⟨settings, error, hload, hlevel, hfailure, hlogging, houtput⟩ |
    ⟨settings, level, hload, hlevel, hfailure, hlogging, houtput⟩ := hcases
  · have hcode : outcome.exitCode = 1 := Outcome.exitCode_of_some hfailure
    have hends : outcome.EndsWell := (Outcome.endsWell_iff_of_some hfailure).mpr ⟨error, rfl⟩
    have hunloaded (settings : Settings) : loaded ≠ .ok settings := by simp [loaded, hload]
    exact ⟨fun settings _ h ↦ absurd h (hunloaded settings),
      fun _ ↦ ⟨hlogging, houtput, hcode⟩,
      fun _ settings h ↦ absurd h (hunloaded settings), fun _ ↦ hends⟩
  · have hcode : outcome.exitCode = 1 := Outcome.exitCode_of_some hfailure
    have hends : ¬ outcome.EndsWell := by simp [Outcome.endsWell_iff_of_some hfailure]
    have hunknown {settings' : Settings} (h : loaded = .ok settings') :
        Level.ofName? settings'.logLevel = none := by
      cases hload.symm.trans h
      exact hlevel
    refine ⟨fun settings' level h hlevel' ↦ ?_, fun _ ↦ ⟨hlogging, houtput, hcode⟩,
      fun h ↦ absurd h hends, fun h ↦ ?_⟩
    · simp [hunknown h] at hlevel'
    · simpa [hlevel] using h settings hload
  · rw [hanswer] at hfailure
    have hcode : outcome.exitCode = 0 ↔ request.accepts settings = true := by
      simp [Outcome.exitCode_eq_zero_iff, hfailure]
    have hends : outcome.EndsWell ↔ request.accepts settings = true := by
      by_cases haccepts : request.accepts settings
      · simp [Outcome.EndsWell, hcode, haccepts]
      · simp [Outcome.endsWell_iff_of_some (hfailure.trans (if_neg haccepts)), haccepts]
    -- a call loads its settings once, so what is said of all settings is said of these
    refine ⟨fun settings' level' h hlevel' ↦ ?_, fun h ↦ ?_, fun h settings' h' ↦ ?_, fun h ↦ ?_⟩
    · cases hload.symm.trans h
      cases hlevel.symm.trans hlevel'
      exact ⟨hlogging, by rw [hlogging]; rfl, hcode⟩
    · simp [h settings hload] at hlevel
    · cases hload.symm.trans h'
      exact ⟨by simp [hlevel], hends.mp h⟩
    · exact hends.mpr (h settings hload).2

/-- A call without files, and with no variable but that of the log level. -/
def ofLevel (level : String) : Call Unit where
  host :=
    { files := fun _ ↦ .missing
      environment := fun name ↦ if name = Settings.Field.logLevel.variableName then some level
        else none }
  plan := .current
  time := default
  standardError := ()
  logging := {}

/-- The variable of the log level sets that level, and nothing else. -/
theorem load_ofLevel (level : String) :
    (Settings.load (ofLevel level).host none none).settings =
      .ok { Settings.defaults with logLevel := level } := by
  have hassigned (name : String) :
      EnvironmentFile.lookup (ofLevel level).host.environment "" name = none := rfl
  have hinputs : Settings.inputs (ofLevel level).host none
      (EnvironmentFile.lookup (ofLevel level).host.environment "") =
        .ok fun field ↦ if field = .logLevel then some (.text level) else none := by
    simp only [Settings.inputs, Settings.namedFile, hassigned]
    refine congrArg Except.ok (funext fun field ↦ ?_)
    cases field <;> rfl
  have htext : Settings.environmentText (ofLevel level).host Settings.defaultEnvironmentFile =
      .ok "" := rfl
  simp only [Settings.load, Option.getD_none, htext, hinputs]
  rfl

/-- A level without a name lets the failure through, although nothing has been changed. -/
theorem not_endsWell_of_chatty :
    Request.ofArguments (ofLevel "chatty").host ["countries"] = .ok (.countries none) ∧
      Level.ofName? "chatty" = none ∧
      ((ofLevel "chatty").run ["countries"]).logging = (ofLevel "chatty").logging ∧
      ¬ ((ofLevel "chatty").run ["countries"]).EndsWell := by
  have hasked : Request.ofArguments (ofLevel "chatty").host ["countries"] =
      .ok (.countries none) := rfl
  have hlevel : Level.ofName? "chatty" = none := by decide
  have hload := load_ofLevel "chatty"
  obtain ⟨-, hunset, hends⟩ := setup_all_or_nothing (ofLevel "chatty") hasked rfl
  refine ⟨hasked, hlevel, (hunset fun settings h ↦ ?_).1, fun hwell ↦ ?_⟩
  · cases hload.symm.trans h
    exact hlevel
  · simpa [hlevel] using hends.mp hwell _ hload

end Call

end AssistedDialing.CommandLine
