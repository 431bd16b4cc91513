import AssistedDialing.CommandLine.Command
import AssistedDialing.Log.Root
import AssistedDialing.Settings.Load
import AssistedDialing.Text.Style

/-!
# Failures of the program

Why a call of the program fails, what it prints then, and with which code it exits. A wrong usage
has the code 2, everything else the code 1.
-/

namespace AssistedDialing.CommandLine

/-- What is wrong with the arguments of a command. Of an unknown command `similar` is the commands
that it resembles. -/
inductive UsageProblem where
  | option (error : OptionError)
  | missingCommand
  | unknownCommand (name : String) (similar : List String)
  | missingNumber
  | extraArguments (arguments : List String)
  | missingFile (path : String)
  | fileIsDirectory (path : String)
  deriving DecidableEq, Repr, Inhabited

/-- `suggestion similar` asks whether one of these words is meant. -/
def suggestion : List String → String
  | [] => ""
  | [word] => " Did you mean " ++ Text.quoted word ++ "?"
  | words => " (Did you mean one of: " ++ ", ".intercalate (words.map Text.quoted) ++ "?)"

namespace UsageProblem

/-- `problem.message` says what is wrong. -/
def message : UsageProblem → String
  | option (.unknown name similar) =>
      "No such option " ++ Text.quoted name ++ "." ++ suggestion similar
  | option (.missingValue name) => "Option " ++ Text.quoted name ++ " requires an argument."
  | option (.unexpectedValue name) => "Option " ++ Text.quoted name ++ " does not take a value."
  | missingCommand => "Missing command."
  | unknownCommand name similar =>
      "No such command " ++ Text.quoted name ++ "." ++ suggestion similar
  | missingNumber => "Missing argument 'NUMBER'."
  | extraArguments arguments =>
      (if arguments.length = 1 then "Got unexpected extra argument ("
        else "Got unexpected extra arguments (") ++ " ".intercalate arguments ++ ")"
  | missingFile path =>
      "Invalid value for '--config': File " ++ Text.quoted path ++ " does not exist."
  | fileIsDirectory path =>
      "Invalid value for '--config': File " ++ Text.quoted path ++ " is a directory."

/-- `problem.showsUsage` holds when the usage line is printed with the message. -/
def showsUsage : UsageProblem → Bool
  | option (.missingValue _) => false
  | option (.unexpectedValue _) => false
  | _ => true

end UsageProblem

/-- Why a call of the program fails. The settings are unusable for a check when an emergency number
has too many digits. -/
inductive Failure where
  | nothingAsked
  | usage (command : Command) (problem : UsageProblem)
  | configuration (error : Settings.LoadError)
  | unknownLevel (error : Log.UnknownLevel)
  | nullInPath
  | unusableSettings
  deriving DecidableEq, Repr, Inhabited

namespace Failure

/-- `failure.exitCode` is the code with which the program exits. -/
def exitCode : Failure → Nat
  | nothingAsked => 2
  | usage _ _ => 2
  | configuration _ => 1
  | unknownLevel _ => 1
  | nullInPath => 1
  | unusableSettings => 1

/-- `errorText message` is the line that reports an error. -/
def errorText (message : String) : String :=
  "Error: " ++ message ++ "\n"

/-- `configurationText details` is the line that reports a wrong configuration. -/
def configurationText (details : String) : String :=
  errorText ("Invalid configuration: " ++ details)

/-- `failure.text` is what the program prints about a failure that it reports itself. Arguments that
are repeated in it set no style. -/
def text : Failure → String
  | nothingAsked => Command.program.help
  | usage command problem =>
      (if problem.showsUsage then
        command.usage ++ "Try '" ++ command.words ++ " --help' for help.\n\n"
      else "") ++ Text.withoutStyles (errorText problem.message)
  | configuration error => configurationText error.message
  | _ => ""

/-- `failure.unreported?` is the message of a failure that the program does not report itself. -/
def unreported? : Failure → Option String
  | unknownLevel error => some error.message
  | nullInPath => some "embedded null byte"
  | unusableSettings => some DigitLimit.unwritableText
  | _ => none

end Failure

end AssistedDialing.CommandLine
