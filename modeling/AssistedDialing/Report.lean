import AssistedDialing.Settings.Basic
import AssistedDialing.Json.Basic

/-!
# Reports on a number

`checkNumber` checks one number under given settings. The home country and the roaming country are
those of the settings unless others are given, and the region for local emergency numbers is the
serving network or else the roaming country.
-/

namespace AssistedDialing

/-- The verdict on a number with the two country codes that it was checked for. -/
structure Report where
  number : String
  home : String
  roaming : String
  verdict : Verdict
  deriving DecidableEq, Repr, Inhabited

namespace Report

/-- `report.toJson` is the report as JSON data. -/
def toJson (report : Report) : Json :=
  .object
    [("number", .text report.number),
     ("home", .text report.home),
     ("roaming", .text report.roaming),
     ("eligible", .bool report.verdict.isEligible),
     ("reason", match report.verdict.reason? with
       | some reason => .text reason.text
       | none => .null)]

/-- `report.text` is the verdict for a human reader. -/
def text (report : Report) : String :=
  match report.verdict.reason? with
  | some reason => "not eligible (" ++ reason.text ++ ")"
  | none => "eligible"

end Report

namespace Eligibility

/-- `run.value` is the outcome of a run that cannot fail. -/
def Run.value {α : Type} (run : Run Empty α) : α :=
  match run.outcome with
  | .ok value => value

end Eligibility

/-- What is asked about a number: the number and the countries, as far as they are given. -/
structure Inquiry where
  number : String
  home : Option String
  roaming : Option String
  network : Option String
  deriving DecidableEq, Repr, Inhabited

namespace Inquiry

open Eligibility (given)

/-- `inquiry.homeCode settings` is the given home country, or else that of the settings. -/
def homeCode (inquiry : Inquiry) (settings : Settings) : String :=
  ((given inquiry.home).or settings.location.home).getD ""

/-- `inquiry.roamingCode settings` is the given roaming country, or else that of the settings. -/
def roamingCode (inquiry : Inquiry) (settings : Settings) : String :=
  ((given inquiry.roaming).or settings.location.roaming).getD ""

/-- `inquiry.networkRegion settings` is the given network, or else the serving network of the
settings, or else the roaming country. -/
def networkRegion (inquiry : Inquiry) (settings : Settings) : Option String :=
  ((given inquiry.network).or settings.location.roaming).or
    (given (some (inquiry.roamingCode settings)))

/-- `inquiry.run plan settings` is the recorded run of the check. -/
def run (inquiry : Inquiry) (plan : NumberingPlan) (settings : Settings) :
    Eligibility.Run Empty Verdict :=
  let home := inquiry.homeCode settings
  (settings.checker plan (given (some home)) (inquiry.networkRegion settings)).evaluate
    (some inquiry.number) (some home) (some (inquiry.roamingCode settings))

/-- `inquiry.report plan settings` is the report on the number. -/
def report (inquiry : Inquiry) (plan : NumberingPlan) (settings : Settings) : Report where
  number := inquiry.number
  home := Text.upper (inquiry.homeCode settings)
  roaming := Text.upper (inquiry.roamingCode settings)
  verdict := (inquiry.run plan settings).value

/-- The name of the logger of this module. -/
def loggerName : String := "assistdial.cli"

/-- `inquiry.summary settings verdict` is the log entry about the whole check. -/
def summary (inquiry : Inquiry) (settings : Settings) (verdict : Verdict) : Log.Entry where
  level := Log.Level.debug
  logger := loggerName
  message := "check " ++ Text.quoted inquiry.number ++ " home=" ++ inquiry.homeCode settings ++
    " roaming=" ++ inquiry.roamingCode settings ++ " -> " ++ verdict.display

/-- `inquiry.log plan settings` is the log of the check: that of the table of countries, that of the
checker and the summary. -/
def log (inquiry : Inquiry) (plan : NumberingPlan) (settings : Settings) : List Log.Entry :=
  let run := inquiry.run plan settings
  settings.countryLog ++ run.log ++ [inquiry.summary settings run.value]

end Inquiry

end AssistedDialing
