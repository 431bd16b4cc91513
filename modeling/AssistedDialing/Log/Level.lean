import AssistedDialing.Text.Upper
import AssistedDialing.Value.Display

/-!
# Log levels

A level is an integer; six of them have names. `Level.name` writes a level and `Level.ofName?` reads
one of the names, in any case. A record may also carry a floating-point number in the place of a
level, which is named alike but never logged.
-/

namespace AssistedDialing.Log

/-- A log level: the greater, the more urgent. -/
abbrev Level := Int

namespace Level

/-- The level of a logger that sets none. -/
def notSet : Level := 0

/-- The level of details. -/
def debug : Level := 10

/-- The level of ordinary events. -/
def info : Level := 20

/-- The level of events that may need attention. -/
def warning : Level := 30

/-- The level of failures. -/
def error : Level := 40

/-- The level of failures that stop the program. -/
def critical : Level := 50

/-- `name? level` is the name of a level, if it has one. -/
def name? (level : Level) : Option String :=
  if level = notSet then some "NOTSET"
  else if level = debug then some "DEBUG"
  else if level = info then some "INFO"
  else if level = warning then some "WARNING"
  else if level = error then some "ERROR"
  else if level = critical then some "CRITICAL"
  else none

/-- `name level` is the name of a level, or its number when it has none. -/
def name (level : Level) : String :=
  (name? level).getD ("Level " ++ Value.intText level)

/-- The names by which levels are configured. -/
def names : List (String × Level) :=
  [("CRITICAL", critical), ("FATAL", critical), ("ERROR", error), ("WARN", warning),
   ("WARNING", warning), ("INFO", info), ("DEBUG", debug), ("NOTSET", notSet)]

/-- `ofName? s` is the level whose name is the upper case of `s`. -/
def ofName? (s : String) : Option Level :=
  names.lookup (Text.upper s)

end Level

/-- What a record carries as its level: a level, or a floating-point number. -/
inductive GivenLevel where
  | level (value : Level)
  | float (value : Binary64)
  deriving DecidableEq, Repr, Inhabited

namespace GivenLevel

/-- `given.name` is the name of the level that a number equals, or else the number. -/
def name : GivenLevel → String
  | level value => value.name
  | float value => (value.integer?.bind Level.name?).getD ("Level " ++ value.text)

end GivenLevel

end AssistedDialing.Log
