import AssistedDialing.Json.Writer
import AssistedDialing.Log.Record

/-!
# Log lines

A record is written on one line of plain text, or as one JSON object. The object has the time, the
level, the logger, the message and an exception, followed by the extra attributes. An extra
attribute that is called like one of the former replaces its value.
-/

namespace AssistedDialing.Log

/-- The two forms of a log line. -/
inductive LineFormat where
  | text
  | json
  deriving DecidableEq, Repr, Inhabited

/-- `put name value fields` sets a field: the value is replaced where the field stands, and a new
field is added at the end. -/
def put (name : String) (value : Value) : List (String × Value) → List (String × Value)
  | [] => [(name, value)]
  | field :: fields =>
      if field.1 = name then (name, value) :: fields else field :: put name value fields

/-- `isShown name` holds when an extra attribute is part of a JSON line. -/
def isShown (name : String) : Bool :=
  !standardAttributes.contains name && name.toList.head? != some '_'

/-- `withExtras fields extras` sets the extra attributes that are shown. -/
def withExtras (fields extras : List (String × Value)) : List (String × Value) :=
  (extras.filter fun extra ↦ isShown extra.1).foldl (fun fields extra ↦
    put extra.1 extra.2 fields) fields

namespace Record

/-- `record.payload` is the fields of a JSON line. -/
def payload (record : Record) : Except RecordError (List (String × Value)) := do
  let instant ← record.instant
  let message ← record.message
  let exception ← record.exceptionLine
  let core : List (String × Value) :=
    [("ts", .text instant.isoText), ("level", record.levelName), ("logger", record.loggerName),
     ("msg", .text message)]
  let core := match exception with
    | some line => core ++ [("exc_info", .text line)]
    | none => core
  return withExtras core record.extras

/-- `record.jsonLine` is the record as one JSON object. -/
def jsonLine (record : Record) : Except RecordError String := do
  let fields ← record.payload
  return (Value.object fields).toJson.compact

/-- `record.textLine` is the record as a line of plain text. -/
def textLine (record : Record) : Except RecordError String := do
  let message ← record.message
  let instant ← record.instant
  return instant.clockText ++ " " ++ record.levelName.display ++ " " ++
    record.loggerName.display ++ ": " ++ message

/-- `record.line format` is the record in one of the two forms. -/
def line (record : Record) : LineFormat → Except RecordError String
  | .text => record.textLine
  | .json => record.jsonLine

end Record

end AssistedDialing.Log
