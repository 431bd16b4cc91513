import AssistedDialing.Decimal
import AssistedDialing.Eligibility.Reason
import AssistedDialing.Json.Basic
import AssistedDialing.Path
import AssistedDialing.PhoneNumber.Source

/-!
# Logged values

A `Value` is what a log record may carry: JSON data, and in addition reasons, sources of calling
codes, decimal numbers and paths. `toJson` is its form in a JSON log line.
-/

namespace AssistedDialing

/-- A value that a log record may carry. -/
inductive Value where
  | null
  | bool (value : Bool)
  | int (value : Int)
  | float (value : Binary64)
  | text (value : String)
  | list (items : List Value)
  | object (fields : List (String × Value))
  | reason (value : Reason)
  | source (value : CodeSource)
  | decimal (value : Decimal)
  | path (value : Path)
  deriving Repr, Inhabited

namespace Value

mutual

/-- `value.toJson` is the JSON form of `value`: reasons, sources, decimal numbers and paths become
texts. -/
def toJson : Value → Json
  | null => .null
  | bool value => .bool value
  | int value => .int value
  | float value => .float value
  | text value => .text value
  | list items => .array (itemsToJson items)
  | object fields => .object (fieldsToJson fields)
  | reason value => .text value.text
  | source value => .text value.text
  | decimal value => .text value.text
  | path value => .text value.text

/-- `itemsToJson items` is the JSON form of each item. -/
def itemsToJson : List Value → List Json
  | [] => []
  | item :: items => toJson item :: itemsToJson items

/-- `fieldsToJson fields` is the JSON form of each field. -/
def fieldsToJson : List (String × Value) → List (String × Json)
  | [] => []
  | (name, value) :: fields => (name, toJson value) :: fieldsToJson fields

end

mutual

/-- `ofJson json` is the value that JSON data stands for. -/
def ofJson : Json → Value
  | .null => null
  | .bool value => bool value
  | .int value => int value
  | .float value => float value
  | .text value => text value
  | .array items => list (itemsOfJson items)
  | .object fields => object (fieldsOfJson fields)

/-- `itemsOfJson items` is the value of each item. -/
def itemsOfJson : List Json → List Value
  | [] => []
  | item :: items => ofJson item :: itemsOfJson items

/-- `fieldsOfJson fields` is the value of each field. -/
def fieldsOfJson : List (String × Json) → List (String × Value)
  | [] => []
  | (name, value) :: fields => (name, ofJson value) :: fieldsOfJson fields

end

end Value

end AssistedDialing
