import AssistedDialing.Log.Entry
import AssistedDialing.Log.Exception
import AssistedDialing.Log.Template
import AssistedDialing.Time.Instant

/-!
# Log records

A `Record` is what one logging call reports: the logger, the level, a template with arguments, the
time, an exception, and extra attributes. An extra attribute with the name of a standard one takes
its place.
-/

namespace AssistedDialing.Log

/-- What one logging call reports. The time is given in seconds since the beginning of 1970. -/
structure Record where
  logger : String
  level : GivenLevel
  template : String
  arguments : List Value
  created : Value
  exception : Option Exception
  extras : List (String × Value)
  deriving Repr, Inhabited

/-- The attributes that every record has. -/
def recordAttributes : List String :=
  ["name", "msg", "args", "levelname", "levelno", "pathname", "filename", "module", "exc_info",
   "exc_text", "stack_info", "lineno", "funcName", "created", "msecs", "relativeCreated", "thread",
   "threadName", "processName", "process"]

/-- The names that no extra attribute of a logging call may have. -/
def reservedNames : List String :=
  recordAttributes ++ ["message", "asctime"]

/-- The standard attributes. Extra attributes of these names are not part of a JSON line. -/
def standardAttributes : List String :=
  reservedNames ++ ["taskName"]

/-- The attribute that makes the message out of the template and the arguments. An extra attribute
may hide it, but no value can do its work. -/
def messageMaker : String :=
  "getMessage"

/-- Why a record cannot be written. -/
inductive RecordError where
  | time (error : Time.TimeError)
  | noMessage (kind : String)
  | format (error : FormatError)
  | trace (error : TraceError)
  deriving DecidableEq, Repr, Inhabited

namespace RecordError

/-- `error.message` says what is wrong. -/
def message : RecordError → String
  | time error => error.message
  | noMessage kind => "'" ++ kind ++ "' object is not callable"
  | format error => error.message
  | trace error => error.message

end RecordError

namespace Record

/-- `record.lookup name default` is an extra attribute, or else `default`. -/
def lookup (record : Record) (name : String) (default : Value) : Value :=
  (record.extras.lookup name).getD default

/-- `record.loggerName` is the name of the logger. -/
def loggerName (record : Record) : Value :=
  record.lookup "name" (.text record.logger)

/-- `record.levelName` is the name of the level. -/
def levelName (record : Record) : Value :=
  record.lookup "levelname" (.text record.level.name)

/-- `record.givenArguments` is the arguments of the message. -/
def givenArguments (record : Record) : Arguments :=
  match record.extras.lookup "args" with
  | some value => .ofValue value
  | none => .ofList record.arguments

/-- `record.message` is the template with the arguments filled in. -/
def message (record : Record) : Except RecordError String :=
  match record.extras.lookup messageMaker with
  | some value => .error (.noMessage value.kind)
  | none =>
      (record.givenArguments.format (record.lookup "msg" (.text record.template)).display).mapError
        .format

/-- `record.instant` is the time of the record. -/
def instant (record : Record) : Except RecordError Time.Instant :=
  (Time.Instant.ofValue (record.lookup "created" record.created)).mapError .time

/-- `record.exceptionLine` shows the exception, if there is one. -/
def exceptionLine (record : Record) : Except RecordError (Option String) :=
  match record.extras.lookup "exc_info" with
  | none => .ok (record.exception.map Exception.line)
  | some value =>
      if value.isEmpty then .ok none
      else ((lineOfValue value).map some).mapError .trace

/-- `ofEntry created entry` is the record of an entry, whose message is complete. -/
def ofEntry (created : Value) (entry : Entry) : Record where
  logger := entry.logger
  level := .level entry.level
  template := entry.message
  arguments := []
  created := created
  exception := none
  extras := []

end Record

end AssistedDialing.Log
