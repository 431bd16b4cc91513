import AssistedDialing.CommandLine.Arguments

/-!
# Commands

The program and its two commands: their options, their usage lines and their help.
-/

namespace AssistedDialing.CommandLine

/-- A command, or the program itself. -/
inductive Command where
  | program
  | check
  | countries
  deriving DecidableEq, Repr, Inhabited

/-- The version of the program. -/
def version : String := "0.1.0"

/-- What `--version` prints. -/
def versionText : String := "assistdial, version " ++ version ++ "\n"

namespace Command

/-- The names of the commands. -/
def names : List String := ["check", "countries"]

/-- `ofName? name` is the command that is called `name`. -/
def ofName? (name : String) : Option Command :=
  if name = "check" then some check else if name = "countries" then some countries else none

/-- `command.words` is the words that run a command. -/
def words : Command → String
  | program => "assistdial"
  | check => "assistdial check"
  | countries => "assistdial countries"

/-- `command.operandText` shows what may follow these words. -/
def operandText : Command → String
  | program => "[OPTIONS] COMMAND [ARGS]..."
  | check => "[OPTIONS] NUMBER"
  | countries => "[OPTIONS]"

/-- `command.usage` is the usage line of a command. -/
def usage (command : Command) : String :=
  "Usage: " ++ command.words ++ " " ++ command.operandText ++ "\n"

/-- `command.description` says what a command does and lists its options. -/
def description : Command → List String
  | program =>
      ["  Assisted dialing eligibility checks.",
       "",
       "Options:",
       "  --version   Show the version and exit.",
       "  -h, --help  Show this message and exit.",
       "",
       "Commands:",
       "  check      Check whether NUMBER is eligible for assisted dialing.",
       "  countries  List the supported country codes."]
  | check =>
      ["  Check whether NUMBER is eligible for assisted dialing.",
       "",
       "Options:",
       "  --home TEXT     Home country (ISO alpha-2). Default: SIM country.",
       "  --roaming TEXT  Roaming country (ISO alpha-2). Default: network country.",
       "  --network TEXT  Serving network country for local emergency numbers. Default:",
       "                  roaming country.",
       "  --json          Print a JSON report.",
       "  --config FILE   YAML config path.",
       "  -h, --help      Show this message and exit."]
  | countries =>
      ["  List the supported country codes.",
       "",
       "Options:",
       "  --config FILE  YAML config path.",
       "  -h, --help     Show this message and exit."]

/-- `command.help` is the help of a command. -/
def help (command : Command) : String :=
  command.usage ++ "\n" ++ String.join (command.description.map (· ++ "\n"))

/-- The option that asks for help. -/
def helpOption : OptionSpec :=
  { name := "--help", letter := some 'h' }

/-- `command.options` is the options of a command. -/
def options : Command → List OptionSpec
  | program => [{ name := "--version" }, helpOption]
  | check =>
      [{ name := "--home", takesValue := true }, { name := "--roaming", takesValue := true },
       { name := "--network", takesValue := true }, { name := "--json" },
       { name := "--config", takesValue := true }, helpOption]
  | countries => [{ name := "--config", takesValue := true }, helpOption]

end Command

end AssistedDialing.CommandLine
