import AssistedDialing.CommandLine.Call
import AssistedDialing.NumberingPlan.World
import Std.Time.DateTime.Timestamp

/-!
# The program

`main` looks at the files and variables that a call can ask for, carries the call out, and prints
what it gives.
-/

namespace AssistedDialing

/-- `FileEntry.read path` is what a path leads to. A directory can be opened but not read, so that
its error, unlike that of a path through a file, names no path. The code 36 is that of a name that
is too long. -/
def FileEntry.read (path : String) : IO FileEntry := do
  try return .file (← IO.FS.readBinFile path).toList
  catch
  | .inappropriateType none .. => return .directory
  | .invalidArgument _ 36 _ => return .nameTooLong
  | _ => return .missing

namespace Host

/-- `ofLists files environment` is a host with these files and environment variables only. -/
def ofLists (files : List (String × FileEntry)) (environment : List (String × Option String)) :
    Host where
  files path := (files.lookup path).getD .missing
  environment name := (environment.lookup name).join

/-- `readFiles paths` is what these paths lead to, as they are written and without needless parts.
-/
def readFiles (paths : List String) : IO (List (String × FileEntry)) :=
  (paths ++ paths.map fun path ↦ (Path.ofText path).text).mapM fun path ↦
    return (path, ← FileEntry.read path)

/-- `readVariables names` is the environment variables of these names. -/
def readVariables (names : List String) : IO (List (String × Option String)) :=
  names.mapM fun name ↦ return (name, ← IO.getEnv name)

/-- `readFor arguments` is the part of the host that a call with these arguments asks for. -/
def readFor (arguments : List String) : IO Host := do
  let environmentFile ← readFiles [Settings.defaultEnvironmentFile]
  let text := (Settings.environmentText (ofLists environmentFile [])
    Settings.defaultEnvironmentFile).toOption.getD ""
  let environment ← readVariables (Settings.fileVariable ::
    Settings.Field.all.map Settings.Field.variableName ++
      EnvironmentFile.referenced text.toList)
  let host := ofLists [] environment
  let named := (CommandLine.Request.configFile? arguments).toList ++
    (Settings.namedFile host.environment).toList ++
    (Settings.namedFile (EnvironmentFile.lookup host.environment text)).toList
  return ofLists (environmentFile ++ (← readFiles named)) environment

end Host

/-- The seconds since the beginning of 1970. -/
def currentTime : IO Value := do
  let nanoseconds := (← Std.Time.Timestamp.now).toNanosecondsSinceUnixEpoch.val
  return .float (.ofRatio false nanoseconds.toNat 1000000000)

end AssistedDialing

open AssistedDialing in
/-- The program. -/
def main (arguments : List String) : IO UInt32 := do
  let call : CommandLine.Call Unit :=
    { host := ← Host.readFor arguments
      plan := .current
      time := ← currentTime
      standardError := ()
      logging := {} }
  let outcome := call.run arguments
  IO.eprint (outcome.logged ())
  IO.print outcome.output
  if let some failure := outcome.failure then
    IO.eprint failure.text
    if let some message := failure.unreported? then IO.eprintln message
  return UInt32.ofNat outcome.exitCode
