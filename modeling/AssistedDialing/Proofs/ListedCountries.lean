import AssistedDialing.Proofs.CommandOutput
import AssistedDialing.Proofs.CountryLists
import AssistedDialing.Proofs.Precedence

/-!
# Listing the supported countries

The program lists the codes of the table of supported countries, one a line. A list that was printed
can be given back in the variable of the setting: a call that is accepted with it prints it again
(`Lists.shown_of_variable`), and a call is still accepted unless another value of the environment
file refers to that variable (`Lists.withVariable`).
-/

namespace AssistedDialing

open EnvironmentFile (AgreeOff Unreferenced statements)
open Text (IsBlankText joinCommas)

/-- `host.withVariable name value` is a host with a variable of the environment set. -/
def Host.withVariable (host : Host) (name value : String) : Host :=
  { host with
    environment := fun other ↦ if other = name then some value else host.environment other }

theorem Host.environment_withVariable (host : Host) (name value : String) :
    (host.withVariable name value).environment name = some value :=
  if_pos rfl

theorem Host.agreeOff_withVariable (host : Host) (name value : String) :
    AgreeOff name host.environment (host.withVariable name value).environment := by
  intro other hother
  exact (if_neg hother).symm

namespace Settings

/-- The variable of the supported countries. -/
abbrev countriesVariable : String :=
  Field.supportedCountries.variableName

variable {host : Host} {yaml? : Option String} {settings : Settings} {value : String}

/-- The supported countries can be given as any text, and this changes nothing else. -/
theorem validate_of_countries {inputs given : Inputs} (h : validate inputs = .ok settings)
    (hgiven : given .supportedCountries = some (.text value))
    (hothers : ∀ field ≠ .supportedCountries, given field = inputs field) :
    validate given = .ok { settings with supportedCountries := .csv value } := by
  have hcountries : checkField given .supportedCountries checkCountries
      defaults.supportedCountries = .ok (.csv value) := by
    rw [checkField, hgiven]
    rfl
  have hkept {α : Type} (field : Field) (hfield : field ≠ .supportedCountries)
      (check : Input → Checked α) (default : α) :
      checkField given field check default = checkField inputs field check default := by
    rw [checkField, checkField, hothers field hfield]
  unfold validate at h ⊢
  rw [hkept .logLevel (by decide), hkept .jsonLogging (by decide),
    hkept .extraEmergencyNumbers (by decide), hkept .simCountry (by decide),
    hkept .networkCountry (by decide), hcountries]
  dsimp only at h ⊢
  split at h
  · next hlevel hjson _ hnumbers hsim hnetwork =>
    cases h
    rw [hlevel, hjson, hnumbers, hsim, hnetwork]
  · cases h

theorem exists_reading (h : (load host yaml? none).settings = .ok settings) :
    ∃ reading : Reading, reading.host = host ∧ reading.yaml? = yaml? ∧
      reading.environment? = none := by
  rcases exists_reading_or_error host yaml? none with hreading | ⟨error, herror, -⟩
  · exact hreading
  · cases h.symm.trans herror

/-- A text in the variable is what is loaded. -/
theorem supportedCountries_of_variable (h : (load host yaml? none).settings = .ok settings)
    (hvariable : host.environment countriesVariable = some value) :
    settings.supportedCountries = .csv value := by
  obtain ⟨reading, rfl, rfl, hdefault⟩ := exists_reading h
  rw [← hdefault] at h
  have hvalid := Reading.validate_of_settings h
  have hgiven : reading.inputs .supportedCountries = some (.text value) :=
    Reading.inputs_eq_some_iff.mpr (.environment hvariable)
  have hsame := hvalid.symm.trans (validate_of_countries hvalid hgiven fun _ _ ↦ rfl)
  rw [Except.ok.inj hsame]

/-- The text of the environment file does not depend on the environment. -/
theorem environmentText_withVariable (host : Host) (name value path : String) :
    environmentText (host.withVariable name value) path = environmentText host path := by
  rw [environmentText, environmentText, Host.withVariable]

/-- Nor does the document of the YAML file. -/
theorem Holds.of_files {other : Host} {file? : Option String} {document : Option Yaml.Content}
    (h : Holds host file? document) (hfiles : other.files = host.files) :
    Holds other file? document := by
  cases h with
  | unnamed => exact .unnamed
  | missing h => exact .missing (hfiles ▸ h)
  | file hfile htext hcontent => exact .file (hfiles ▸ hfile) htext hcontent

/-- Setting the variable of the supported countries changes them and nothing else, unless another
value of the environment file refers to it. -/
theorem load_withVariable (h : (load host yaml? none).settings = .ok settings)
    (hunreferenced : ∀ text, environmentText host defaultEnvironmentFile = .ok text →
      Unreferenced countriesVariable (statements text)) (value : String) :
    (load (host.withVariable countriesVariable value) yaml? none).settings =
      .ok { settings with supportedCountries := .csv value } := by
  obtain ⟨reading, rfl, rfl, hdefault⟩ := exists_reading h
  have hreads := reading.readsText
  rw [hdefault] at hreads
  have hfree := hunreferenced _ hreads
  have hvariable := reading.host.agreeOff_withVariable countriesVariable value
  have hassigned : AgreeOff countriesVariable
      (EnvironmentFile.lookup reading.host.environment reading.text)
      (EnvironmentFile.lookup (reading.host.withVariable countriesVariable value).environment
        reading.text) := EnvironmentFile.lookup_agreeOff hvariable rfl hfree
  -- the variable that names the YAML file is another one, so the same document is read
  have hnamed : fileVariable ≠ countriesVariable := by decide
  have hdocument := reading.readsDocument
  rw [fileOf, namedFile, namedFile, hvariable _ hnamed, hassigned _ hnamed] at hdocument
  let other : Reading :=
    { reading with
      host := reading.host.withVariable countriesVariable value
      readsText := (environmentText_withVariable _ _ _ _).trans reading.readsText
      readsDocument := hdocument.of_files rfl }
  have honly : reading.OnlyChanges .supportedCountries other :=
    ⟨hvariable, rfl, .inl hfree, fun _ _ _ ↦ Iff.rfl⟩
  have hgiven : other.inputs .supportedCountries = some (.text value) :=
    Reading.inputs_eq_some_iff.mpr (.environment (reading.host.environment_withVariable _ _))
  have hothers : ∀ field ≠ .supportedCountries, other.inputs field = reading.inputs field := by
    intro field hfield
    ext input
    rw [Reading.inputs_eq_some_iff, Reading.inputs_eq_some_iff, honly.gives_iff hfield]
  rw [← hdefault] at h ⊢
  have hvalid := validate_of_countries (Reading.validate_of_settings h) hgiven hothers
  show other.settings = _
  rw [Reading.settings_eq, hvalid]
  rfl

theorem pairwise_codes_countryTable (settings : Settings) :
    settings.countryTable.codes.Pairwise (· < ·) :=
  Country.Table.pairwise_codes_ofCsv (some settings.countryList) Country.Table.defaultEntries

/-- A list that names the codes of a table gives that table again. -/
theorem countryTable_of_joinCommas {other : Settings} (hsome : settings.countryTable.codes ≠ [])
    (hother : other.supportedCountries = .csv (joinCommas settings.countryTable.codes)) :
    other.countryTable = settings.countryTable := by
  rw [countryTable_of_csv hother]
  exact Country.Table.ofCsv_joinCommas_codes hsome _

end Settings

namespace CommandLine

open Log (Level)
open Settings (countriesVariable)

variable {σ : Type}

/-- What is asked depends on the files of the host, and not on its environment. -/
theorem Request.ofArguments_withVariable (host : Host) (name value : String)
    (arguments : List String) :
    ofArguments (host.withVariable name value) arguments = ofArguments host arguments := by
  have hconfig (command : Command) (path? : Option String) :
      checkConfig (host.withVariable name value) command path? =
        checkConfig host command path? := by
    cases path? <;> rfl
  simp only [ofArguments, ofCommand, checkOf, countriesOf, hconfig]

/-- `lines codes` is the codes, one a line. -/
def lines (codes : List String) : String :=
  String.join (codes.map (· ++ "\n"))

namespace Call

variable {call : Call σ} {arguments : List String} {settings : Settings}

/-- `call.Lists arguments settings` says that the arguments ask for the supported countries under
settings that can be loaded, with a level that is known. -/
def Lists (call : Call σ) (arguments : List String) (settings : Settings) : Prop :=
  ∃ config, Request.ofArguments call.host arguments = .ok (.countries config) ∧
    (Settings.load call.host config none).settings = .ok settings ∧
    (Level.ofName? settings.logLevel).isSome = true

/-- The codes are printed, and nothing else. -/
theorem Lists.shown (h : call.Lists arguments settings) :
    (call.run arguments).shown = (lines settings.countryTable.codes, 0) := by
  obtain ⟨config, hasked, hload, hlevel⟩ := h
  rw [run_eq_configured hasked rfl, shown_configured, hload]
  dsimp only
  rw [if_pos hlevel]
  rfl

/-- A call that is accepted with the codes in the variable prints them again. -/
theorem Lists.shown_of_variable (h : call.Lists arguments settings)
    (hsome : settings.countryTable.codes ≠ []) {other : Call σ} {arguments' : List String}
    {settings' : Settings} (hother : other.Lists arguments' settings')
    (hvariable : other.host.environment countriesVariable =
      some (joinCommas settings.countryTable.codes)) :
    (other.run arguments').shown = (call.run arguments).shown := by
  have hlisted := hother.shown
  obtain ⟨config, -, hload, -⟩ := hother
  have hcountries := Settings.supportedCountries_of_variable hload hvariable
  rw [hlisted, h.shown, Settings.countryTable_of_joinCommas hsome hcountries]

/-- `call.withVariable name value` is the call with a variable of the environment set. -/
def withVariable (call : Call σ) (name value : String) : Call σ :=
  { call with host := call.host.withVariable name value }

/-- A call is still accepted with any list in the variable, unless another value of the environment
file refers to it. -/
theorem Lists.withVariable (h : call.Lists arguments settings)
    (hunreferenced : ∀ text,
      Settings.environmentText call.host Settings.defaultEnvironmentFile = .ok text →
        Unreferenced countriesVariable (statements text)) (value : String) :
    (call.withVariable countriesVariable value).Lists arguments
      { settings with supportedCountries := .csv value } := by
  obtain ⟨config, hasked, hload, hlevel⟩ := h
  exact ⟨config, (Request.ofArguments_withVariable _ _ _ _).trans hasked,
    Settings.load_withVariable hload hunreferenced value, hlevel⟩

end Call

/-- The supported countries are listed in ascending order. They are the well-formed ones among the
normalised pieces of the setting, possibly none, if a piece is not blank, and the default ones
otherwise; for a text they are those of the table of the text. A table with a code is read back from
its codes with commas between them. So the list that a call prints is printed again by any accepted
call with these codes in the variable, and the same call is still accepted with them unless another
value of the environment file refers to the variable. -/
theorem countries_listed (call : Call σ) (arguments : List String) :
    (∀ settings : Settings,
      let pieces := settings.supportedCountries.pieces
      let codes := settings.countryTable.codes
      codes.Pairwise (· < ·) ∧
        ((∃ piece ∈ pieces, ¬ IsBlankText piece) → ∀ code, code ∈ codes ↔
          ∃ piece ∈ pieces, Country.normalizeText piece = code ∧
            Country.isWellFormed code = true) ∧
        ((∀ piece ∈ pieces, IsBlankText piece) → codes = Country.defaultCodes) ∧
        ∀ text, settings.supportedCountries = .csv text →
          settings.countryTable = .ofCsv (some text) Country.Table.defaultEntries) ∧
    (∀ entries fallback, (Country.Table.ofEntries entries).codes ≠ [] →
      Country.Table.ofCsv (some (joinCommas (Country.Table.ofEntries entries).codes)) fallback =
        .ofEntries entries) ∧
    ∀ settings, call.Lists arguments settings →
      let codes := settings.countryTable.codes
      let shown := (call.run arguments).shown
      shown = (lines codes, 0) ∧
        (codes ≠ [] →
          (∀ (other : Call σ) (arguments' : List String) (settings' : Settings),
            other.Lists arguments' settings' →
            other.host.environment countriesVariable = some (joinCommas codes) →
              (other.run arguments').shown = shown) ∧
          ((∀ text, Settings.environmentText call.host Settings.defaultEnvironmentFile = .ok text →
              Unreferenced countriesVariable (statements text)) →
            ((call.withVariable countriesVariable (joinCommas codes)).run arguments).shown =
              shown)) := by
  refine ⟨?_, ?_, ?_⟩
  · intro settings pieces codes
    exact ⟨settings.pairwise_codes_countryTable,
      fun hsome code ↦ Settings.mem_codes_countryTable hsome,
      Settings.codes_countryTable_of_blank, fun text ↦ Settings.countryTable_of_csv⟩
  · intro entries fallback hsome
    exact Country.Table.ofCsv_joinCommas_codes hsome fallback
  · intro settings hlists codes shown
    have hshown : shown = (lines codes, 0) := hlists.shown
    refine ⟨hshown, ?_⟩
    intro hsome
    constructor
    · intro other arguments' settings' hother hvariable
      exact hlists.shown_of_variable hsome hother hvariable
    · intro hunreferenced
      exact hlists.shown_of_variable hsome (hlists.withVariable hunreferenced _)
        (call.host.environment_withVariable _ _)

/-- A call on a host with an environment file in which the format of the log refers to the variable
of the supported countries. -/
def referringCall : Call Unit where
  host :=
    { files := fun path ↦
        if path = Settings.defaultEnvironmentFile then
          .file ("ASSISTDIAL_JSON_LOGGING=${ASSISTDIAL_SUPPORTED_COUNTRIES:-0}\n".toList.map fun c ↦
            UInt8.ofNat c.toNat)
        else .missing
      environment := fun _ ↦ none }
  plan := .current
  time := default
  standardError := ()
  logging := {}

/-- The default countries are listed, and the call fails with their list in the variable. -/
theorem countries_not_listed_again :
    (referringCall.run ["countries"]).shown = (lines Country.defaultCodes, 0) ∧
      ((referringCall.withVariable countriesVariable (joinCommas Country.defaultCodes)).run
        ["countries"]).shown = ("", 1) := by
  constructor
  · decide
  · decide

end CommandLine

end AssistedDialing
