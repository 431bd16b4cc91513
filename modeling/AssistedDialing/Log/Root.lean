import AssistedDialing.Log.Line
import AssistedDialing.Text.Quoted

/-!
# The root logger

`Root` is the state of logging: the level below which nothing is written, and a handler, once
logging is configured. `Root.configure` replaces both. `Root.write` tells what a record writes to
which stream; `σ` is the type of the names of streams.
-/

namespace AssistedDialing.Log

/-- Where and how lines are written. -/
structure Handler (σ : Type) where
  stream : σ
  format : LineFormat
  deriving DecidableEq, Repr, Inhabited

/-- The state of logging. -/
structure Root (σ : Type) where
  level : Level := Level.warning
  handler : Option (Handler σ) := none
  deriving DecidableEq, Repr

instance {σ : Type} : Inhabited (Root σ) := ⟨{}⟩

/-- A level that has no name, in upper case. -/
structure UnknownLevel where
  name : String
  deriving DecidableEq, Repr, Inhabited

namespace UnknownLevel

/-- `error.message` says what is wrong. -/
def message (error : UnknownLevel) : String :=
  "Unknown level: " ++ Text.quoted error.name

end UnknownLevel

/-- Why a record is refused: its level is no integer, or an extra attribute has a reserved name. -/
inductive Refusal where
  | level
  | reservedName (name : String)
  deriving DecidableEq, Repr, Inhabited

namespace Refusal

/-- `refusal.message` says what is wrong; a reserved name is reported in quotation marks. -/
def message : Refusal → String
  | level => "level must be an integer"
  | reservedName name =>
      Text.quoted ("Attempt to overwrite " ++ Text.quoted name ++ " in LogRecord")

end Refusal

/-- `loggerCalled name` is the name that the logger called `name` reports. -/
def loggerCalled (name : String) : String :=
  if name = "" then "root" else name

namespace Root

variable {σ : Type}

/-- `root.handlerCount` is the number of handlers. -/
def handlerCount (root : Root σ) : Nat :=
  root.handler.toList.length

/-- `root.configure level json stream` sets the level and replaces the handler. -/
def configure (root : Root σ) (level : String) (json : Bool) (stream : σ) :
    Except UnknownLevel (Root σ) :=
  match Level.ofName? level with
  | some known =>
      .ok { root with level := known, handler := some ⟨stream, if json then .json else .text⟩ }
  | none => .error ⟨Text.upper level⟩

/-- `root.isEnabled level` holds when records of the level are written. The level 0 never is. -/
def isEnabled (root : Root σ) (level : Level) : Bool :=
  0 < level && root.level ≤ level

/-- `reserved? extras` is the first extra attribute with a reserved name. -/
def reserved? (extras : List (String × Value)) : Option String :=
  (extras.map Prod.fst).find? fun name ↦ reservedNames.contains name

/-- `root.write record` is the stream and the text that a record writes, if it writes anything. A
record that cannot be put into a line writes nothing. -/
def write (root : Root σ) (record : Record) : Except Refusal (Option (σ × String)) :=
  match record.level with
  | .float _ => .error .level
  | .level level =>
      if root.isEnabled level then
        match reserved? record.extras with
        | some name => .error (.reservedName name)
        | none => .ok <| root.handler.bind fun handler ↦
            match record.line handler.format with
            | .ok line => some (handler.stream, line ++ "\n")
            | .error _ => none
      else .ok none

/-- `root.deliver standardError created entry` is the stream and the text that a log entry writes.
While there is no handler, the bare message of a warning or of something worse goes to standard
error. -/
def deliver (root : Root σ) (standardError : σ) (created : Value) (entry : Entry) :
    Option (σ × String) :=
  match root.handler with
  | some _ => (root.write (.ofEntry created entry)).toOption.join
  | none =>
      if root.isEnabled entry.level && Level.warning ≤ entry.level then
        some (standardError, entry.message ++ "\n")
      else none

end Root

end AssistedDialing.Log
