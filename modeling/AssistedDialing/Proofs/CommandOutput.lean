import AssistedDialing.Proofs.JsonIndented
import AssistedDialing.Proofs.ListSources
import AssistedDialing.Proofs.Setup

/-!
# What a check prints

A check prints the verdict on a line, or the whole report as one JSON document. `check_printed` says
that this is all it prints and that it succeeds, whatever the verdict, as long as the further
emergency numbers can be written out. What a call prints and how it exits does not depend on the
logging it finds (`Invocation.shown_run`), so it is the same behind any calls in the same process
(`shown_session`), and it depends on no setting of the logging either.
-/

namespace AssistedDialing

/-! ## Reports -/

namespace Report

/-- `report.document` is the report as JSON data with its fields in the order of their names. -/
def document (report : Report) : Json :=
  .object
    [("eligible", .bool report.verdict.isEligible),
     ("home", .text report.home),
     ("number", .text report.number),
     ("reason", match report.verdict.reason? with
       | some reason => .text reason.text
       | none => .null),
     ("roaming", .text report.roaming)]

theorem sorted_toJson (report : Report) : report.toJson.sorted = report.document := by
  obtain ⟨number, home, roaming, verdict⟩ := report
  cases verdict with
  | eligible | ineligible =>
      simp [toJson, document, Verdict.reason?, Json.sorted, Json.sortedFields, Json.byName,
        List.mergeSort, List.MergeSort.Internal.splitInTwo]

theorem exact_toJson (report : Report) : report.toJson.Exact := by
  refine .object fun field hfield ↦ ?_
  obtain ⟨number, home, roaming, verdict⟩ := report
  simp only [List.mem_cons, List.not_mem_nil, or_false] at hfield
  obtain rfl | rfl | rfl | rfl | rfl := hfield
  · exact .text _
  · exact .text _
  · exact .text _
  · exact .bool _
  · cases verdict with
    | eligible => exact .null
    | ineligible reason => exact .text _

/-- `report.printed json` is what is printed for a report: the verdict on a line, or the report as
JSON. -/
def printed (report : Report) (json : Bool) : String :=
  (if json then report.toJson.indented else report.text) ++ "\n"

/-- What is printed as JSON is one document, which reads back as the report. -/
theorem read?_printed (report : Report) :
    Json.read? (report.printed true) = some report.document := by
  have hspace : Json.IsSpaces "\n".toList := by simp [Json.IsSpaces, Json.isSpace]
  rw [← sorted_toJson]
  exact Json.read?_indented report.exact_toJson hspace

theorem printed_of_reason {report : Report} {reason : Reason}
    (h : report.verdict.reason? = some reason) :
    report.printed false = "not eligible (" ++ reason.text ++ ")\n" := by
  show report.text ++ "\n" = _
  rw [text, h]
  simp only [String.append_assoc]
  rfl

theorem printed_eq_eligible_iff (report : Report) :
    report.printed false = "eligible\n" ↔ report.verdict.isEligible = true := by
  cases hreason : report.verdict.reason? with
  | none =>
      have hprinted : report.printed false = "eligible\n" := by
        show report.text ++ "\n" = _
        rw [text, hreason]
        rfl
      exact iff_of_true hprinted ((Verdict.reason?_eq_none_iff _).mp hreason)
  | some reason =>
      refine iff_of_false (fun hprinted ↦ ?_) fun heligible ↦ ?_
      · rw [printed_of_reason hreason] at hprinted
        have hfirst := congrArg (fun s : String ↦ s.toList.head?) hprinted
        simp at hfirst
      · simp [(Verdict.reason?_eq_none_iff _).mpr heligible] at hreason

end Report

namespace Settings

/-- `settings.SameButLogging other` says that settings differ in the settings of the logging at
most. -/
def SameButLogging (settings other : Settings) : Prop :=
  { settings with logLevel := other.logLevel, jsonLogging := other.jsonLogging } = other

end Settings

namespace CommandLine

open Log (Level)

variable {σ : Type}

/-! ## What is shown -/

/-- `outcome.shown` is what a call prints and the code with which it exits. -/
def Outcome.shown (outcome : Outcome σ) : String × Nat :=
  (outcome.output, outcome.exitCode)

/-- `answer.shown` is what a command prints and the code with which the program then exits. -/
def Answer.shown (answer : Answer) : String × Nat :=
  (answer.output, (answer.failure.map Failure.exitCode).getD 0)

/-- A check prints its report and succeeds, or prints nothing and fails. -/
theorem Answer.shown_ofCheck (plan : NumberingPlan) (settings : Settings) (inquiry : Inquiry)
    (json : Bool) :
    (Answer.ofCheck plan settings inquiry json).shown =
      if settings.isUsable then ((inquiry.report plan settings).printed json, 0) else ("", 1) := by
  rw [ofCheck]
  split <;> rfl

/-- A check does not look at the settings of the logging. -/
theorem Answer.shown_ofCheck_congr {settings other : Settings}
    (h : settings.SameButLogging other) (plan : NumberingPlan) (inquiry : Inquiry) (json : Bool) :
    (Answer.ofCheck plan settings inquiry json).shown =
      (Answer.ofCheck plan other inquiry json).shown := by
  rw [← h]
  rfl

namespace Call

variable {call : Call σ} {arguments : List String} {inquiry : Inquiry} {json : Bool}
  {settings : Settings}

/-- What a call shows that works under settings is said by the settings alone. -/
theorem shown_configured (call : Call σ) (config : Option String) (answer : Settings → Answer) :
    (call.configured config answer).shown =
      match (Settings.load call.host config none).settings with
      | .error _ => ("", 1)
      | .ok settings =>
          if (Level.ofName? settings.logLevel).isSome then (answer settings).shown
          else ("", 1) := by
  obtain ⟨error, hload, hfailure, -, houtput⟩ |
    ⟨settings, error, hload, hlevel, hfailure, -, houtput⟩ |
    ⟨settings, level, hload, hlevel, hfailure, -, houtput⟩ := configured_cases call config answer
  all_goals simp_all [Outcome.shown, Answer.shown, Outcome.exitCode, Failure.exitCode]

/-- `call.Checks arguments inquiry json settings` says that the arguments ask for a check under
settings that can be loaded, with a level that is known. -/
def Checks (call : Call σ) (arguments : List String) (inquiry : Inquiry) (json : Bool)
    (settings : Settings) : Prop :=
  ∃ config, Request.ofArguments call.host arguments = .ok (.check inquiry json config) ∧
    (Settings.load call.host config none).settings = .ok settings ∧
    (Level.ofName? settings.logLevel).isSome = true

theorem Checks.shown (h : call.Checks arguments inquiry json settings) :
    (call.run arguments).shown = (Answer.ofCheck call.plan settings inquiry json).shown := by
  obtain ⟨config, hasked, hload, hlevel⟩ := h
  have hrun : call.run arguments = call.configured config fun settings ↦
      .ofCheck call.plan settings inquiry json := run_eq_configured hasked rfl
  rw [hrun, shown_configured, hload]
  exact if_pos hlevel

end Call

/-! ## Calls in one process -/

/-- A call with its arguments. Within a process the logging is not that of the call, but what
earlier calls have left behind. -/
structure Invocation (σ : Type) where
  call : Call σ
  arguments : List String

/-- `invocation.run logging` is the outcome of a call that finds this logging. -/
def Invocation.run (invocation : Invocation σ) (logging : Log.Root σ) : Outcome σ :=
  { invocation.call with logging }.run invocation.arguments

/-- `session logging invocations` is the outcomes of calls that one process makes one after another.
-/
def session (logging : Log.Root σ) : List (Invocation σ) → List (Outcome σ)
  | [] => []
  | first :: later =>
      let outcome := first.run logging
      outcome :: session outcome.logging later

/-- What a call shows does not depend on the logging it finds. -/
theorem Invocation.shown_run (invocation : Invocation σ) (logging : Log.Root σ) :
    (invocation.run logging).shown = (invocation.call.run invocation.arguments).shown := by
  simp only [run, Call.run]
  -- only what works under settings meets the logging, and that is said by the settings alone
  cases Request.ofArguments invocation.call.host invocation.arguments with
  | error failure => rfl
  | ok request =>
      cases request with
      | version | help => rfl
      | check | countries => simp only [Call.shown_configured]

/-- Each call in a process shows what it shows alone. -/
theorem shown_session (logging : Log.Root σ) (invocations : List (Invocation σ)) :
    (session logging invocations).map Outcome.shown =
      invocations.map fun invocation ↦ (invocation.call.run invocation.arguments).shown := by
  induction invocations generalizing logging with
  | nil => rfl
  | cons first later ih =>
      rw [session, List.map_cons, List.map_cons, first.shown_run, ih]

namespace Call

variable {call : Call σ} {arguments : List String} {inquiry : Inquiry} {json : Bool}
  {settings : Settings}

/-- A check succeeds, whatever the verdict, and prints its report and nothing else, unless a further
emergency number cannot be written out; then it fails and prints nothing. It shows the same under
all settings that differ in the logging only, behind any calls in the same process. -/
theorem check_printed (h : call.Checks arguments inquiry json settings) :
    let outcome := call.run arguments
    let report := inquiry.report call.plan settings
    (settings.isUsable = true → outcome.exitCode = 0 ∧
      (json = true → Json.read? outcome.output = some report.document) ∧
      (json = false → (outcome.output = "eligible\n" ↔ report.verdict.isEligible = true) ∧
        ∀ reason, report.verdict.reason? = some reason →
          outcome.output = "not eligible (" ++ reason.text ++ ")\n")) ∧
      (settings.isUsable = false → outcome.exitCode = 1 ∧ outcome.output = "") ∧
      ∀ (other : Call σ) (arguments' : List String) (settings' : Settings),
        other.plan = call.plan → other.Checks arguments' inquiry json settings' →
        settings'.SameButLogging settings →
        ∀ (logging : Log.Root σ) (earlier : List (Invocation σ)),
          ((session logging (earlier ++ [⟨other, arguments'⟩])).map Outcome.shown).getLast? =
            some outcome.shown := by
  intro outcome report
  have hshown : (outcome.output, outcome.exitCode) =
      if settings.isUsable then (report.printed json, 0) else ("", 1) :=
    h.shown.trans (Answer.shown_ofCheck call.plan settings inquiry json)
  refine ⟨fun husable ↦ ?_, fun husable ↦ ?_, ?_⟩
  · rw [husable, if_pos rfl, Prod.mk.injEq] at hshown
    obtain ⟨houtput, hcode⟩ := hshown
    refine ⟨hcode, ?_, ?_⟩
    · rintro rfl
      rw [houtput]
      exact report.read?_printed
    · rintro rfl
      rw [houtput]
      exact ⟨report.printed_eq_eligible_iff, fun reason ↦ Report.printed_of_reason⟩
  · rw [husable, if_neg Bool.false_ne_true, Prod.mk.injEq] at hshown
    exact ⟨hshown.2, hshown.1⟩
  · intro other arguments' settings' hplan hother hsame logging earlier
    have hsettings : (other.run arguments').shown = outcome.shown := by
      rw [hother.shown, h.shown, hplan]
      exact Answer.shown_ofCheck_congr hsame call.plan inquiry json
    rw [shown_session, List.map_append, List.map_singleton, List.getLast?_concat, hsettings]

/-- `powerOfEight n` is a power of eight in base 8, with the zero in front that makes it octal. -/
def powerOfEight (n : Nat) : String :=
  String.ofList ('0' :: '1' :: List.replicate n '0')

theorem octalValue_powerOfEight (n : Nat) : Yaml.octalValue (powerOfEight n).toList = 8 ^ n := by
  have hzeros (m : Nat) : (List.replicate n '0').foldl (fun k c ↦ 8 * k + (c.toNat - 48)) m =
      8 ^ n * m := by
    induction n generalizing m with
    | zero => simp
    | succ n ih => rw [List.replicate_succ, List.foldl_cons, ih]; simp [pow_succ, Nat.mul_assoc]
  rw [powerOfEight, String.toList_ofList, Yaml.octalValue, List.foldl_cons, List.foldl_cons, hzeros]
  simp

theorem isNumber_powerOfEight (n : Nat) : Settings.IsNumber (powerOfEight n) := by
  constructor
  · simp [powerOfEight, String.ofList_eq_empty_iff]
  · simp [powerOfEight, Text.isAsciiDigit]

/-- A call on a host with a file `device.yaml`, which gives one emergency number. -/
def withNumber (number : String) : Call Unit :=
  { ofLevel "INFO" with
    host := Settings.deviceFile
      (Yaml.Content.flowList Settings.Field.extraEmergencyNumbers.name [number]) }

/-- A power of eight is loaded as the number that it is. -/
theorem load_powerOfEight (n : Nat) :
    (Settings.load (withNumber (powerOfEight n)).host (some "device.yaml") none).settings =
      .ok { extraEmergencyNumbers := .list [.number (8 ^ n : Nat)] } := by
  have hnumber := isNumber_powerOfEight n
  have hoctal : Yaml.isOctal (powerOfEight n).toList = true := by
    simp [powerOfEight, Yaml.isOctal]
  have hfile : Settings.OnlyFile (withNumber (powerOfEight n)).host "device.yaml"
      (Yaml.Content.flowList Settings.Field.extraEmergencyNumbers.name [powerOfEight n]) :=
    Settings.onlyFile_flowList (List.cons_ne_nil _ _) (by simpa using hnumber.isWord)
  have hcontents : ∀ word ∈ [powerOfEight n],
      Yaml.wordContent word.toList = .ok (.int (8 ^ n : Nat)) := by
    intro word hword
    rw [List.mem_singleton.mp hword, Yaml.wordContent_octal hnumber.2 hoctal,
      octalValue_powerOfEight]
  rw [Settings.load_flowList_ok hfile (by simp) (by simpa using hnumber.isWord) hcontents]
  rfl

/-- A check without a country is refused with an exit code of 0, also at another level and behind a
call that failed. With a number of over 4300 digits in a file it fails. -/
theorem check_of_long_number :
    let inquiry : Inquiry := ⟨"911", none, none, none⟩
    let short := ["check", "911"]
    let long := ["check", "911", "--config", "device.yaml"]
    (∃ settings, (ofLevel "INFO").Checks short inquiry false settings ∧
      settings.isUsable = true ∧ ((ofLevel "INFO").run short).exitCode = 0 ∧
      ((ofLevel "INFO").run short).output = "not eligible (empty-home-code)\n" ∧
      ((session {} [⟨ofLevel "chatty", short⟩, ⟨ofLevel "debug", short⟩]).map
        Outcome.shown).getLast? = some ((ofLevel "INFO").run short).shown) ∧
      ∃ settings, (withNumber (powerOfEight 4800)).Checks long inquiry false settings ∧
        settings.isUsable = false ∧ ((withNumber (powerOfEight 4800)).run long).exitCode = 1 := by
  intro inquiry short long
  have hshort (level : String) (hlevel : (Level.ofName? level).isSome = true) :
      (ofLevel level).Checks short inquiry false { Settings.defaults with logLevel := level } :=
    ⟨none, rfl, load_ofLevel level, hlevel⟩
  have hinfo := hshort "INFO" (by decide)
  have hlong : (withNumber (powerOfEight 4800)).Checks long inquiry false
      { extraEmergencyNumbers := .list [.number (8 ^ 4800 : Nat)] } :=
    ⟨some "device.yaml", rfl, load_powerOfEight 4800, by decide⟩
  -- 8 ^ 48 has more than 43 digits, so that its powers have more than 43 times as many
  have hpower {digits n : Nat} (k : Nat) (hdigits : digits = 43 * k) (hn : n = 48 * k) :
      10 ^ digits ≤ 8 ^ n := by
    rw [hdigits, hn, pow_mul, pow_mul]
    exact Nat.pow_le_pow_left (by decide) k
  have hunusable : Settings.isUsable
      { extraEmergencyNumbers := .list [.number (8 ^ 4800 : Nat)] } = false := by
    simp only [Settings.isUsable, List.all_cons,
      Settings.isWritable_eq_false (hpower 100 rfl rfl), Bool.false_and]
  obtain ⟨hprinted, -, hlogging⟩ := check_printed hinfo
  obtain ⟨hcode, -, hverdict⟩ := hprinted rfl
  refine ⟨⟨_, hinfo, rfl, hcode, (hverdict rfl).2 .emptyHomeCode rfl, ?_⟩,
    _, hlong, hunusable, ((check_printed hlong).2.1 hunusable).1⟩
  exact hlogging (ofLevel "debug") short _ rfl (hshort "debug" (by decide)) rfl {}
    [⟨ofLevel "chatty", short⟩]

end Call

end CommandLine

end AssistedDialing
