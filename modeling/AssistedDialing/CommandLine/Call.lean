import AssistedDialing.CommandLine.Request
import AssistedDialing.Json.Writer

/-!
# A call of the program

`Call.run` carries out what the arguments ask for: it loads the settings, configures logging, and
gives what the program prints, what is logged to which stream, the new state of logging, and a
failure. Logging goes to the standard error of the call.
-/

namespace AssistedDialing.CommandLine

/-- A call of the program: the host, the numbering plan, the time, the name of the standard error,
and the state of logging before. -/
structure Call (σ : Type) where
  host : Host
  plan : NumberingPlan
  time : Value
  standardError : σ
  logging : Log.Root σ

/-- What a call does. -/
structure Outcome (σ : Type) where
  output : String := ""
  written : List (σ × String) := []
  failure : Option Failure := none
  logging : Log.Root σ

/-- What a command prints and logs, and its failure. -/
structure Answer where
  output : String := ""
  log : List Log.Entry := []
  failure : Option Failure := none
  deriving DecidableEq, Repr, Inhabited

namespace Answer

/-- `ofCheck plan settings inquiry json` checks a number and prints the report. Under unusable
settings it only builds the table of countries. -/
def ofCheck (plan : NumberingPlan) (settings : Settings) (inquiry : Inquiry) (json : Bool) :
    Answer :=
  if settings.isUsable then
    let report := inquiry.report plan settings
    { output := (if json then report.toJson.indented else report.text) ++ "\n"
      log := inquiry.log plan settings }
  else { log := settings.countryLog, failure := some .unusableSettings }

/-- `ofCountries settings` lists the supported countries, one a line. -/
def ofCountries (settings : Settings) : Answer where
  output := String.join (settings.countryTable.codes.map (· ++ "\n"))
  log := settings.countryLog

end Answer

namespace Call

variable {σ : Type}

/-- `call.deliver logging entries` is what the log entries write. -/
def deliver (call : Call σ) (logging : Log.Root σ) (entries : List Log.Entry) :
    List (σ × String) :=
  entries.filterMap (logging.deliver call.standardError call.time)

/-- `call.configured config answer` loads the settings, configures logging and gives the answer. -/
def configured (call : Call σ) (config : Option String) (answer : Settings → Answer) :
    Outcome σ :=
  let loaded := Settings.load call.host config none
  let warned := call.deliver call.logging loaded.warnings
  match loaded.settings with
  | .error error =>
      { written := warned, failure := some (.configuration error), logging := call.logging }
  | .ok settings =>
      match call.logging.configure settings.logLevel settings.jsonLogging call.standardError with
      | .error error =>
          { written := warned, failure := some (.unknownLevel error), logging := call.logging }
      | .ok logging =>
          let answer := answer settings
          { output := answer.output
            written := warned ++ call.deliver logging answer.log
            failure := answer.failure
            logging }

/-- `call.run arguments` carries out what the arguments ask for. -/
def run (call : Call σ) (arguments : List String) : Outcome σ :=
  match Request.ofArguments call.host arguments with
  | .error failure => { failure := some failure, logging := call.logging }
  | .ok .version => { output := versionText, logging := call.logging }
  | .ok (.help command) => { output := command.help, logging := call.logging }
  | .ok (.check inquiry json config) =>
      call.configured config fun settings ↦ .ofCheck call.plan settings inquiry json
  | .ok (.countries config) => call.configured config .ofCountries

end Call

namespace Outcome

variable {σ : Type}

/-- `outcome.exitCode` is the code with which the program exits. -/
def exitCode (outcome : Outcome σ) : Nat :=
  (outcome.failure.map Failure.exitCode).getD 0

/-- `outcome.logged stream` is what is logged to a stream. -/
def logged [DecidableEq σ] (stream : σ) (outcome : Outcome σ) : String :=
  String.join ((outcome.written.filter fun line ↦ line.1 = stream).map Prod.snd)

end Outcome

end AssistedDialing.CommandLine
