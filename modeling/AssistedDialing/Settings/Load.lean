import AssistedDialing.EnvironmentFile.Variables
import AssistedDialing.Host
import AssistedDialing.Path
import AssistedDialing.Settings.Configuration
import AssistedDialing.Settings.Validation
import AssistedDialing.Text.Lines

/-!
# Loading settings

`load` reads the settings of a host. A setting comes from the environment, or else from the
environment file, or else from the YAML file, or else it has its default. A file that is missing
gives nothing. The environment file is read first, for it may name the YAML file.
-/

namespace AssistedDialing.Settings

/-- Why settings cannot be loaded. -/
inductive LoadError where
  | isDirectory (path : String)
  | nameTooLong (path : String)
  | notText (error : Text.Utf8Error)
  | yaml (failure : Yaml.Failure)
  | invalid (problems : List Problem)
  deriving DecidableEq, Repr, Inhabited

namespace LoadError

/-- `error.message` says what is wrong. Of invalid settings it gives only the number of problems. -/
def message : LoadError → String
  | isDirectory path => "[Errno 21] Is a directory: " ++ Text.quoted path
  | nameTooLong path => "[Errno 36] File name too long: " ++ Text.quoted path
  | notText error => error.message
  | yaml failure => failure.message
  | invalid problems => problemCount problems

end LoadError

/-- The variable that names the YAML file. -/
def fileVariable : String := "ASSISTDIAL_CONFIG"

/-- The environment file that is read when none is named. -/
def defaultEnvironmentFile : String := ".env"

/-- `textOf bytes` is the text of a file with its line ends unified. -/
def textOf (bytes : List UInt8) : Except LoadError String :=
  ((Text.decodeUtf8 bytes).map Text.unifyLineEnds).mapError .notText

/-- `environmentText host path` is the text of the environment file; a directory counts as empty. -/
def environmentText (host : Host) (path : String) : Except LoadError String :=
  let path := (Path.ofText path).text
  match host.files path with
  | .missing | .directory => .ok ""
  | .nameTooLong => .error (.nameTooLong path)
  | .file bytes => textOf bytes

/-- `yamlInputs host path` is the values that the YAML file gives. -/
def yamlInputs (host : Host) (path : String) : Except LoadError Inputs :=
  let path := (Path.ofText path).text
  match host.files path with
  | .missing => .ok .empty
  | .directory => .error (.isDirectory path)
  | .nameTooLong => .error (.nameTooLong path)
  | .file bytes => do
      let text ← textOf bytes
      let content ← (Yaml.Content.ofText text).mapError LoadError.yaml
      return .ofContent content

/-- `namedFile environment` is the YAML file that an environment names; the empty name counts as
none. -/
def namedFile (environment : String → Option String) : Option String :=
  (environment fileVariable).filter (· ≠ "")

/-- `inputs host yaml? assigned` is the unchecked values of all settings, where `assigned` is the
variables of the environment file. -/
def inputs (host : Host) (yaml? : Option String) (assigned : String → Option String) :
    Except LoadError Inputs := do
  let file := (yaml?.or (namedFile host.environment)).or (namedFile assigned)
  let fromFile ← match file with
    | some path => yamlInputs host path
    | none => .ok .empty
  return (Inputs.ofEnvironment host.environment).orElse
    ((Inputs.ofEnvironment assigned).orElse fromFile)

/-- The settings, or why there are none, and what was logged meanwhile. -/
structure Loaded where
  settings : Except LoadError Settings
  warnings : List Log.Entry := []
  deriving Repr

/-- `load host yaml? environment?` loads the settings of a host. The two files may be named. -/
def load (host : Host) (yaml? environment? : Option String) : Loaded :=
  match environmentText host (environment?.getD defaultEnvironmentFile) with
  | .error error => { settings := .error error }
  | .ok text =>
      { settings := do
          let inputs ← inputs host yaml? (EnvironmentFile.lookup host.environment text)
          (validate inputs).mapError .invalid
        warnings := EnvironmentFile.warnings text }

end AssistedDialing.Settings
