import AssistedDialing.CommandLine.Failure
import AssistedDialing.Report

/-!
# What is asked of the program

`Request.ofArguments` reads what the arguments of the program ask for. Help and the version are
given before anything else is looked at, once the options can be read.
-/

namespace AssistedDialing.CommandLine

/-- What is asked of the program. -/
inductive Request where
  | version
  | help (command : Command)
  | check (inquiry : Inquiry) (json : Bool) (config : Option String)
  | countries (config : Option String)
  deriving DecidableEq, Repr, Inhabited

namespace Request

/-- `parse command arguments` separates the arguments of a command. -/
def parse (command : Command) (arguments : List String) : Except Failure Arguments :=
  (Arguments.parse command.options (command ≠ .program) arguments).mapError fun error ↦
    .usage command (.option error)

/-- `configFile? arguments` is the configuration file that the arguments of the program name. -/
def configFile? (arguments : List String) : Option String := do
  let parsed ← (parse .program arguments).toOption
  let name ← parsed.operands.head?
  let command ← Command.ofName? name
  let inner ← (parse command (parsed.operands.drop 1)).toOption
  inner.value? "--config"

/-- `checkConfig host command path?` refuses a configuration file that is missing or a directory.
The null character is no part of a path. -/
def checkConfig (host : Host) (command : Command) (path? : Option String) :
    Except Failure Unit :=
  match path? with
  | none => .ok ()
  | some path =>
      if path.toList.contains '\x00' then .error .nullInPath
      else match host.files path with
        | .missing | .nameTooLong => .error (.usage command (.missingFile path))
        | .directory => .error (.usage command (.fileIsDirectory path))
        | .file _ => .ok ()

/-- `checkOf host arguments` is what the arguments of the command `check` ask for. -/
def checkOf (host : Host) (arguments : Arguments) : Except Failure Request := do
  let config := arguments.value? "--config"
  checkConfig host .check config
  match arguments.operands with
  | [] => .error (.usage .check .missingNumber)
  | number :: extra =>
      if extra.isEmpty then
        let inquiry : Inquiry :=
          ⟨number, arguments.value? "--home", arguments.value? "--roaming",
            arguments.value? "--network"⟩
        return .check inquiry (arguments.has "--json") config
      else .error (.usage .check (.extraArguments extra))

/-- `countriesOf host arguments` is what the arguments of the command `countries` ask for. -/
def countriesOf (host : Host) (arguments : Arguments) : Except Failure Request := do
  let config := arguments.value? "--config"
  checkConfig host .countries config
  if arguments.operands.isEmpty then return .countries config
  else .error (.usage .countries (.extraArguments arguments.operands))

/-- `early? command arguments` is the request for help or for the version that comes first. -/
def early? (command : Command) (arguments : Arguments) : Option Request :=
  match arguments.firstOf ["--version", "--help"] with
  | some name => some (if name = "--version" then .version else .help command)
  | none => none

/-- `ofCommand host command arguments` is what the arguments of a command ask for. -/
def ofCommand (host : Host) (command : Command) (arguments : List String) :
    Except Failure Request := do
  let parsed ← parse command arguments
  match early? command parsed, command with
  | some request, _ => return request
  | none, .check => checkOf host parsed
  | none, _ => countriesOf host parsed

/-- `unknownCommand name arguments` reports a name that no command has. The name may be an option
that two dashes precede; it is then read as an option after all. -/
def unknownCommand (name : String) (arguments : List String) : Except Failure Request := do
  let parsed ← parse .program (name :: arguments)
  match early? .program parsed with
  | some request => return request
  | none => .error (.usage .program (.unknownCommand name (Text.closest name Command.names)))

/-- `ofArguments host arguments` is what the arguments of the program ask for. -/
def ofArguments (host : Host) (arguments : List String) : Except Failure Request := do
  if arguments.isEmpty then .error .nothingAsked
  let parsed ← parse .program arguments
  match early? .program parsed, parsed.operands with
  | some request, _ => return request
  | none, [] => .error (.usage .program .missingCommand)
  | none, name :: rest =>
      match Command.ofName? name with
      | some command => ofCommand host command rest
      | none => unknownCommand name rest

end Request

end AssistedDialing.CommandLine
