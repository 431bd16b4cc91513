import AssistedDialing.Log.Level

/-!
# Log entries

An entry is one event that a part of the library reports: its level, the name of the logger and the
message.
-/

namespace AssistedDialing.Log

/-- One logged event. -/
structure Entry where
  level : Level
  logger : String
  message : String
  deriving DecidableEq, Repr, Inhabited

end AssistedDialing.Log
