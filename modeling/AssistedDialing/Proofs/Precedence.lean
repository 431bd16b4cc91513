import AssistedDialing.Proofs.References
import AssistedDialing.Settings.Load

/-!
# Precedence of the sources of settings

A `Reading` is a loading of settings whose files can be read. `Reading.Gives` says which of the
three sources, the environment, the environment file and the YAML document, gives a setting and
what. `Reading.precedence` says that exactly these values are validated, each by itself: what one
setting is given changes no other setting, and what is overridden changes nothing. There is one
proviso, since the values of an environment file can refer to variables: a variable to which the
value of another one refers changes that one too (`Reading.referring_changes_other`).
-/

namespace AssistedDialing.Settings

open EnvironmentFile (AgreeOff Unreferenced others statements)

/-! ## Entries of a document -/

/-- `HasEntry document name value` says that the root of a document is a mapping in which `value` is
the last value under the key `name`. -/
def HasEntry (document : Option Yaml.Content) (name : String) (value : Yaml.Content) : Prop :=
  ∃ before after, document = some (.mapping (before ++ (.text name, value) :: after)) ∧
    ∀ entry ∈ after, entry.1 ≠ .text name

theorem named?_eq_some_iff {entry : Yaml.Content × Yaml.Content} {name : String} {input : Input} :
    Inputs.named? entry = some (name, input) ↔
      ∃ value, entry = (.text name, value) ∧ input = .ofContent value := by
  constructor
  · intro h
    rw [Inputs.named?.eq_def] at h
    split at h
    · next value =>
      cases h
      exact ⟨value, rfl, rfl⟩
    · cases h
  · rintro ⟨value, rfl, rfl⟩
    rfl

/-- `documentInputs document` is the values that a document gives, if there is one. -/
def documentInputs : Option Yaml.Content → Inputs
  | some content => .ofContent content
  | none => .empty

/-- What a document gives for a setting is the last value under its name. -/
theorem documentInputs_eq_some_iff {document : Option Yaml.Content} {field : Field}
    {input : Input} :
    documentInputs document field = some input ↔
      ∃ value, HasEntry document field.name value ∧ input = .ofContent value := by
  constructor
  · intro h
    rw [documentInputs.eq_def] at h
    split at h
    · next content =>
      rw [Inputs.ofContent.eq_def] at h
      split at h
      · next pairs =>
        -- the names are looked up from the last entry on, so `later` is what stands behind it
        obtain ⟨later, earlier, hnames, hlast⟩ := List.lookup_eq_some_iff.mp h
        rw [List.reverse_eq_append_iff, List.reverse_cons, List.append_assoc,
          List.singleton_append, List.filterMap_eq_append_iff] at hnames
        obtain ⟨before, rest, rfl, -, hrest⟩ := hnames
        obtain ⟨skipped, entry, after, rfl, -, hentry, hafter⟩ :=
          List.filterMap_eq_cons_iff.mp hrest
        obtain ⟨value, rfl, hinput⟩ := named?_eq_some_iff.mp hentry
        refine ⟨value, ⟨before ++ skipped, after, by rw [List.append_assoc], ?_⟩, hinput⟩
        rintro ⟨key, other⟩ hmem rfl
        have hlater : (field.name, Input.ofContent other) ∈ later := by
          rw [← List.mem_reverse, ← hafter]
          exact List.mem_filterMap.mpr ⟨_, hmem, rfl⟩
        simpa using hlast _ hlater
      · cases h
    · cases h
  · rintro ⟨value, ⟨before, after, rfl, hlast⟩, rfl⟩
    have hafter : (after.filterMap Inputs.named?).reverse.lookup field.name = none := by
      rw [List.lookup_eq_none_iff]
      rintro ⟨name, input⟩ hmem
      obtain ⟨entry, hentry, hnamed⟩ := List.mem_filterMap.mp (List.mem_reverse.mp hmem)
      obtain ⟨value, rfl, -⟩ := named?_eq_some_iff.mp hnamed
      rw [bne_iff_ne]
      rintro rfl
      exact hlast _ hentry rfl
    have hnamed : Inputs.named? (.text field.name, value) =
        some (field.name, .ofContent value) := rfl
    rw [documentInputs, Inputs.ofContent, Inputs.ofNamed, List.filterMap_append,
      List.filterMap_cons_some hnamed, List.reverse_append, List.reverse_cons, List.append_assoc,
      List.lookup_append, hafter]
    simp

/-! ## Readings -/

/-- `Holds host file? document` says that the file of a configuration, if there is one, holds a
document. -/
inductive Holds (host : Host) : Option String → Option Yaml.Content → Prop where
  | unnamed : Holds host none none
  | missing {path : String} (h : host.files (Path.ofText path).text = .missing) :
      Holds host (some path) none
  | file {path text : String} {bytes : List UInt8} {content : Yaml.Content}
      (hfile : host.files (Path.ofText path).text = .file bytes) (htext : textOf bytes = .ok text)
      (hcontent : Yaml.Content.ofText text = .ok content) : Holds host (some path) (some content)

theorem yamlInputs_of_file {host : Host} {path : String} {bytes : List UInt8}
    (h : host.files (Path.ofText path).text = .file bytes) :
    yamlInputs host path = (textOf bytes).bind fun text ↦
      ((Yaml.Content.ofText text).mapError .yaml).map .ofContent := by
  simp only [yamlInputs, h]
  rfl

theorem Holds.yamlInputs_eq {host : Host} {path : String} {document : Option Yaml.Content}
    (h : Holds host (some path) document) :
    yamlInputs host path = .ok (documentInputs document) := by
  cases h with
  | missing h =>
      simp only [yamlInputs, h]
      rfl
  | file hfile htext hcontent =>
      rw [yamlInputs_of_file hfile, htext, Except.bind, hcontent]
      rfl

/-- `fileOf yaml? environment assigned` is the YAML file that is read, if any: the first that is
named, where the environment counts before the environment file. -/
def fileOf (yaml? : Option String) (environment assigned : String → Option String) :
    Option String :=
  (yaml?.or (namedFile environment)).or (namedFile assigned)

/-- A loading of settings whose files can be read: what they hold. -/
structure Reading where
  host : Host
  yaml? : Option String
  environment? : Option String
  text : String
  document : Option Yaml.Content
  readsText : environmentText host (environment?.getD defaultEnvironmentFile) = .ok text
  readsDocument : Holds host
    (fileOf yaml? host.environment (EnvironmentFile.lookup host.environment text)) document

theorem namedFile_eq_some_iff {environment : String → Option String} {path : String} :
    namedFile environment = some path ↔ environment fileVariable = some path ∧ path ≠ "" := by
  rw [namedFile, Option.filter_eq_some_iff, decide_eq_true_eq]

theorem namedFile_eq_none_iff {environment : String → Option String} :
    namedFile environment = none ↔
      ∀ named, environment fileVariable = some named → named = "" := by
  simp [namedFile, Option.filter_eq_none_iff]

/-- The YAML file is the one that is named, or else the one that the environment names, or else the
one that the environment file names. The empty name names none. -/
theorem fileOf_eq_some_iff {yaml? : Option String} {environment assigned : String → Option String}
    {path : String} :
    fileOf yaml? environment assigned = some path ↔
      yaml? = some path ∨
        yaml? = none ∧ path ≠ "" ∧ (environment fileVariable = some path ∨
          (∀ named, environment fileVariable = some named → named = "") ∧
            assigned fileVariable = some path) := by
  rw [fileOf, Option.or_eq_some_iff, Option.or_eq_some_iff, Option.or_eq_none_iff,
    namedFile_eq_some_iff, namedFile_eq_some_iff, namedFile_eq_none_iff]
  grind

theorem textOf_ne_invalid (bytes : List UInt8) (problems : List Problem) :
    textOf bytes ≠ .error (.invalid problems) := by
  rw [textOf]
  intro h
  cases hdecoded : (Text.decodeUtf8 bytes).map Text.unifyLineEnds <;> rw [hdecoded] at h <;> cases h

/-- A YAML file holds a document, or it cannot be read. -/
theorem exists_holds_or_error (host : Host) (path : String) :
    (∃ document, Holds host (some path) document) ∨
      ∃ error, yamlInputs host path = .error error ∧ ∀ problems, error ≠ .invalid problems := by
  cases hfile : host.files (Path.ofText path).text with
  | missing => exact .inl ⟨none, .missing hfile⟩
  | directory =>
      refine .inr ⟨.isDirectory (Path.ofText path).text, ?_, fun _ ↦ LoadError.noConfusion⟩
      simp only [yamlInputs, hfile]
  | nameTooLong =>
      refine .inr ⟨.nameTooLong (Path.ofText path).text, ?_, fun _ ↦ LoadError.noConfusion⟩
      simp only [yamlInputs, hfile]
  | file bytes =>
      rw [yamlInputs_of_file hfile]
      cases htext : textOf bytes with
      | error error =>
          refine .inr ⟨error, rfl, ?_⟩
          rintro problems rfl
          exact textOf_ne_invalid _ _ htext
      | ok text =>
          cases hcontent : Yaml.Content.ofText text with
          | error failure =>
              refine .inr ⟨.yaml failure, ?_, fun _ ↦ LoadError.noConfusion⟩
              rw [Except.bind, hcontent]
              rfl
          | ok content => exact .inl ⟨_, .file hfile htext hcontent⟩

/-- Loading settings is a reading, or else it fails at a file that cannot be read, before anything
is validated. -/
theorem exists_reading_or_error (host : Host) (yaml? environment? : Option String) :
    (∃ reading : Reading, reading.host = host ∧ reading.yaml? = yaml? ∧
      reading.environment? = environment?) ∨
    ∃ error, (load host yaml? environment?).settings = .error error ∧
      ∀ problems, error ≠ .invalid problems := by
  cases htext : environmentText host (environment?.getD defaultEnvironmentFile) with
  | error error =>
      refine .inr ⟨error, by rw [load, htext], ?_⟩
      rintro problems rfl
      rw [environmentText] at htext
      split at htext
      · cases htext
      · cases htext
      · cases htext
      · exact textOf_ne_invalid _ _ htext
  | ok text =>
      cases hfile :
        fileOf yaml? host.environment (EnvironmentFile.lookup host.environment text) with
      | none =>
          exact .inl ⟨⟨host, yaml?, environment?, text, none, htext, hfile ▸ .unnamed⟩,
            rfl, rfl, rfl⟩
      | some path =>
          obtain ⟨document, hholds⟩ | ⟨error, herror, hkind⟩ := exists_holds_or_error host path
          · exact .inl ⟨⟨host, yaml?, environment?, text, document, htext, hfile ▸ hholds⟩,
              rfl, rfl, rfl⟩
          · refine .inr ⟨error, ?_, hkind⟩
            rw [fileOf] at hfile
            rw [load, htext]
            simp only [Settings.inputs, hfile, herror]
            rfl

namespace Reading

/-- `reading.environment name` is the value of a variable in the environment. -/
def environment (reading : Reading) : String → Option String :=
  reading.host.environment

/-- `reading.assigned name` is the value that the environment file gives a variable. -/
def assigned (reading : Reading) : String → Option String :=
  EnvironmentFile.lookup reading.host.environment reading.text

/-- `reading.settings` is what is loaded. -/
def settings (reading : Reading) : Except LoadError Settings :=
  (load reading.host reading.yaml? reading.environment?).settings

/-- `reading.Gives field input` says which of the three sources gives a setting. -/
inductive Gives (reading : Reading) (field : Field) : Input → Prop where
  | environment {value : String} (h : reading.environment field.variableName = some value) :
      Gives reading field (.text value)
  | assigned {value : String} (henvironment : reading.environment field.variableName = none)
      (h : reading.assigned field.variableName = some value) : Gives reading field (.text value)
  | document {value : Yaml.Content} (henvironment : reading.environment field.variableName = none)
      (hassigned : reading.assigned field.variableName = none)
      (h : HasEntry reading.document field.name value) : Gives reading field (.ofContent value)

/-- `reading.inputs` is the mapping that is validated. -/
def inputs (reading : Reading) : Inputs :=
  (Inputs.ofEnvironment reading.environment).orElse
    ((Inputs.ofEnvironment reading.assigned).orElse (documentInputs reading.document))

theorem settings_eq (reading : Reading) :
    reading.settings = (validate reading.inputs).mapError .invalid := by
  have hdocument : Settings.inputs reading.host reading.yaml? reading.assigned =
      .ok reading.inputs := by
    have hreads := reading.readsDocument
    rw [fileOf, ← assigned] at hreads
    rw [Settings.inputs, Reading.inputs]
    generalize (reading.yaml?.or (namedFile reading.host.environment)).or
      (namedFile reading.assigned) = file? at hreads ⊢
    generalize reading.document = document at hreads ⊢
    cases file? with
    | some path => simp only [hreads.yamlInputs_eq]; rfl
    | none => cases hreads; rfl
  rw [settings, load, reading.readsText]
  dsimp only
  rw [← assigned, hdocument]
  rfl

/-- What is validated has exactly the values that the sources give. -/
theorem inputs_eq_some_iff {reading : Reading} {field : Field} {input : Input} :
    reading.inputs field = some input ↔ reading.Gives field input := by
  have hinputs : reading.inputs field =
      ((reading.environment field.variableName).map Input.text).or
        (((reading.assigned field.variableName).map Input.text).or
          (documentInputs reading.document field)) := rfl
  rw [hinputs]
  constructor
  · intro h
    cases henvironment : reading.environment field.variableName with
    | some value =>
        rw [henvironment] at h
        cases h
        exact .environment henvironment
    | none =>
        cases hassigned : reading.assigned field.variableName with
        | some value =>
            rw [henvironment, hassigned] at h
            cases h
            exact .assigned henvironment hassigned
        | none =>
            rw [henvironment, hassigned] at h
            obtain ⟨value, hentry, rfl⟩ := documentInputs_eq_some_iff.mp h
            exact .document henvironment hassigned hentry
  · rintro (h | ⟨henvironment, h⟩ | ⟨henvironment, hassigned, h⟩)
    · rw [h]
      rfl
    · rw [henvironment, h]
      rfl
    · rw [henvironment, hassigned]
      exact documentInputs_eq_some_iff.mpr ⟨_, h, rfl⟩

/-- Readings whose sources give the same load the same, or fail in the same way. -/
theorem settings_congr {reading other : Reading}
    (h : ∀ field input, reading.Gives field input ↔ other.Gives field input) :
    other.settings = reading.settings := by
  have hinputs : other.inputs = reading.inputs := by
    funext field
    ext input
    rw [inputs_eq_some_iff, inputs_eq_some_iff, h]
  rw [settings_eq, settings_eq, hinputs]

end Reading

/-! ## One setting changes -/

namespace Field

theorem variableName_injective : Function.Injective variableName := by
  intro first second h
  cases first <;> cases second <;> first | rfl | exact absurd h (by decide)

theorem name_injective : Function.Injective name := by
  intro first second h
  cases first <;> cases second <;> first | rfl | exact absurd h (by decide)

end Field

/-- `SameAt field first second` says that two settings have the same value of one field. -/
def SameAt : Field → Settings → Settings → Prop
  | .logLevel, first, second => first.logLevel = second.logLevel
  | .jsonLogging, first, second => first.jsonLogging = second.jsonLogging
  | .supportedCountries, first, second => first.supportedCountries = second.supportedCountries
  | .extraEmergencyNumbers, first, second =>
      first.extraEmergencyNumbers = second.extraEmergencyNumbers
  | .simCountry, first, second => first.simCountry = second.simCountry
  | .networkCountry, first, second => first.networkCountry = second.networkCountry

/-- A value that is validated depends on what is given for it alone. -/
theorem sameAt_of_validate {inputs inputs' : Inputs} {first second : Settings} {field : Field}
    (hfirst : validate inputs = .ok first) (hsecond : validate inputs' = .ok second)
    (hfield : inputs field = inputs' field) : SameAt field first second := by
  simp only [validate] at hfirst hsecond
  split at hfirst
  · next hlevel hjson hcountries hnumbers hsim hnetwork =>
    split at hsecond
    · next hlevel' hjson' hcountries' hnumbers' hsim' hnetwork' =>
      cases hfirst
      cases hsecond
      cases field <;> simp_all [checkField, SameAt]
    · cases hsecond
  · cases hfirst

namespace Reading

/-- `reading.OnlyChanges field other` says that the sources of two readings differ at most in one
setting: in its variable, in the statements of the environment file that bind the variable, and in
the entries of its name in the document. If a variable is different at all, then the values of the
other variables of the environment file do not refer to it. -/
structure OnlyChanges (reading : Reading) (field : Field) (other : Reading) : Prop where
  environment : AgreeOff field.variableName reading.environment other.environment
  bindings : others field.variableName (statements reading.text) =
    others field.variableName (statements other.text)
  unreferenced : Unreferenced field.variableName (statements reading.text) ∨
    reading.environment = other.environment ∧ reading.text = other.text
  document : ∀ name ≠ field.name, ∀ value,
    HasEntry reading.document name value ↔ HasEntry other.document name value

variable {reading other : Reading} {field kept : Field} {input : Input}

theorem OnlyChanges.assigned (h : reading.OnlyChanges field other) :
    AgreeOff field.variableName reading.assigned other.assigned := by
  obtain hunreferenced | ⟨henvironment, htext⟩ := h.unreferenced
  · exact EnvironmentFile.lookup_agreeOff h.environment h.bindings hunreferenced
  · intro name _
    have hhost : reading.host.environment = other.host.environment := henvironment
    rw [Reading.assigned, Reading.assigned, hhost, htext]

theorem Gives.of_same (h : reading.Gives field input)
    (henvironment : reading.environment field.variableName = other.environment field.variableName)
    (hassigned : reading.assigned field.variableName = other.assigned field.variableName)
    (hdocument : ∀ value, HasEntry reading.document field.name value →
      HasEntry other.document field.name value) : other.Gives field input := by
  cases h with
  | environment h => exact .environment (henvironment ▸ h)
  | assigned hunset h => exact .assigned (henvironment ▸ hunset) (hassigned ▸ h)
  | document hunset hunassigned h =>
      exact .document (henvironment ▸ hunset) (hassigned ▸ hunassigned) (hdocument _ h)

/-- The other settings are given as before. -/
theorem OnlyChanges.gives_iff (h : reading.OnlyChanges field other) (hkept : kept ≠ field) :
    reading.Gives kept input ↔ other.Gives kept input := by
  have hvariable : kept.variableName ≠ field.variableName := Field.variableName_injective.ne hkept
  have henvironment := h.environment _ hvariable
  have hassigned := h.assigned _ hvariable
  have hdocument := h.document _ (Field.name_injective.ne hkept)
  exact ⟨fun hgives ↦ hgives.of_same henvironment hassigned fun value ↦ (hdocument value).mp,
    fun hgives ↦ hgives.of_same henvironment.symm hassigned.symm fun value ↦ (hdocument value).mpr⟩

theorem gives_iff_of_environment {value : String}
    (h : reading.environment field.variableName = some value) :
    reading.Gives field input ↔ input = .text value := by
  refine ⟨fun hgives ↦ ?_, fun hinput ↦ hinput ▸ .environment h⟩
  cases hgives with
  | environment h' =>
      cases h.symm.trans h'
      rfl
  | assigned hunset | document hunset => cases h.symm.trans hunset

theorem gives_iff_of_assigned {value : String}
    (henvironment : reading.environment field.variableName = none)
    (h : reading.assigned field.variableName = some value) :
    reading.Gives field input ↔ input = .text value := by
  refine ⟨fun hgives ↦ ?_, fun hinput ↦ hinput ▸ .assigned henvironment h⟩
  cases hgives with
  | environment hset => cases henvironment.symm.trans hset
  | assigned _ h' =>
      cases h.symm.trans h'
      rfl
  | document _ hunassigned => cases h.symm.trans hunassigned

/-- What overrides a setting hides what the sources below give for it. -/
theorem OnlyChanges.settings_eq (h : reading.OnlyChanges field other) {value : String}
    (hoverridden : (reading.environment field.variableName = some value ∧
        other.environment field.variableName = some value) ∨
      (reading.environment field.variableName = other.environment field.variableName ∧
        reading.assigned field.variableName = some value ∧
        other.assigned field.variableName = some value)) :
    other.settings = reading.settings := by
  refine settings_congr fun kept input ↦ ?_
  by_cases hkept : kept = field
  · -- the setting itself has one value that it is given, whatever stands below
    subst hkept
    obtain ⟨hreading, hother⟩ | ⟨hsame, hreading, hother⟩ := hoverridden
    · rw [gives_iff_of_environment hreading, gives_iff_of_environment hother]
    · cases hset : reading.environment kept.variableName with
      | some set =>
          rw [gives_iff_of_environment hset, gives_iff_of_environment (hsame ▸ hset)]
      | none =>
          rw [gives_iff_of_assigned hset hreading, gives_iff_of_assigned (hsame ▸ hset) hother]
  · exact h.gives_iff hkept

theorem validate_of_settings {settings : Settings} (h : reading.settings = .ok settings) :
    validate reading.inputs = .ok settings := by
  rw [Reading.settings_eq] at h
  cases hvalidate : validate reading.inputs with
  | ok found =>
      rw [hvalidate] at h
      cases h
      rfl
  | error problems =>
      rw [hvalidate] at h
      cases h

/-- Of two successful readings, the other settings are the same. -/
theorem OnlyChanges.sameAt (h : reading.OnlyChanges field other) {first second : Settings}
    (hfirst : reading.settings = .ok first) (hsecond : other.settings = .ok second)
    (hkept : kept ≠ field) : SameAt kept first second := by
  refine sameAt_of_validate (validate_of_settings hfirst) (validate_of_settings hsecond) ?_
  ext input
  rw [inputs_eq_some_iff, inputs_eq_some_iff, h.gives_iff hkept]

/-! ## Precedence -/

/-- The YAML file is the named one, or else the one that the environment names, or else the one that
the environment file names, the empty name being none. What is validated is exactly what the sources
give, each setting from the first source that has it. When the sources change in one setting, to
whatever it may be, the other settings are given the same values, and so are loaded the same if both
readings succeed; and if the setting is overridden before and after by the same value, both readings
load the same settings or fail in the same way. -/
theorem precedence (reading : Reading) :
    (∀ path, fileOf reading.yaml? reading.environment reading.assigned = some path ↔
      reading.yaml? = some path ∨
        reading.yaml? = none ∧ path ≠ "" ∧ (reading.environment fileVariable = some path ∨
          (∀ named, reading.environment fileVariable = some named → named = "") ∧
            reading.assigned fileVariable = some path)) ∧
    (∃ inputs : Inputs, reading.settings = (validate inputs).mapError .invalid ∧
      ∀ field input, inputs field = some input ↔ reading.Gives field input) ∧
    ∀ field other, reading.OnlyChanges field other →
      (∀ kept ≠ field, ∀ input, reading.Gives kept input ↔ other.Gives kept input) ∧
      (∀ first second, reading.settings = .ok first → other.settings = .ok second →
        ∀ kept ≠ field, SameAt kept first second) ∧
      ∀ value, (reading.environment field.variableName = some value ∧
          other.environment field.variableName = some value) ∨
        (reading.environment field.variableName = other.environment field.variableName ∧
          reading.assigned field.variableName = some value ∧
          other.assigned field.variableName = some value) →
        other.settings = reading.settings := by
  refine ⟨fun path ↦ fileOf_eq_some_iff,
    ⟨reading.inputs, reading.settings_eq, fun field input ↦ inputs_eq_some_iff⟩,
    fun field other h ↦ ⟨fun kept hkept input ↦ h.gives_iff hkept,
      fun first second hfirst hsecond kept hkept ↦ h.sameAt hfirst hsecond hkept,
      fun value hoverridden ↦ h.settings_eq hoverridden⟩⟩

/-- A host with an environment file in which the country of the network refers to the variable of
the country of the SIM, which is as it is given. -/
def referring (sim? : Option String) : Host where
  files := fun path ↦
    if path = defaultEnvironmentFile then
      .file ("ASSISTDIAL_NETWORK_COUNTRY=${ASSISTDIAL_SIM_COUNTRY}\n".toList.map fun c ↦
        UInt8.ofNat c.toNat)
    else .missing
  environment := fun name ↦ if name = Field.simCountry.variableName then sim? else none

/-- Setting the variable of one field gives another field a different value. -/
theorem referring_changes_other :
    (referring none).files = (referring (some "US")).files ∧
      AgreeOff Field.simCountry.variableName (referring none).environment
        (referring (some "US")).environment ∧
      (load (referring none) none none).settings.toOption.map networkCountry = some (some "") ∧
      (load (referring (some "US")) none none).settings.toOption.map networkCountry =
        some (some "US") := by
  refine ⟨rfl, fun name hname ↦ ?_, by rfl, by rfl⟩
  simp only [referring, if_neg hname]

end Reading

end AssistedDialing.Settings
