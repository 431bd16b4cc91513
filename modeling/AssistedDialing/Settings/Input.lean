import AssistedDialing.Json.Basic
import AssistedDialing.Settings.Field

/-!
# Unchecked settings

What a configuration gives for a setting before it is checked. Bytes that encode no text are
`undecodable`. A value that suits no setting, such as a mapping or a date, is `other`.
-/

namespace AssistedDialing.Settings

/-- An unchecked value. -/
inductive Input where
  | null
  | bool (value : Bool)
  | int (value : Int)
  | float (value : Binary64)
  | text (value : String)
  | undecodable
  | list (items : List Input)
  | other
  deriving Repr, Inhabited

namespace Input

mutual

/-- `ofJson json` is the unchecked value that JSON data gives. -/
def ofJson : Json → Input
  | .null => null
  | .bool value => bool value
  | .int value => int value
  | .float value => float value
  | .text value => text value
  | .array items => list (itemsOfJson items)
  | .object _ => other

/-- `itemsOfJson items` is the unchecked value of each item. -/
def itemsOfJson : List Json → List Input
  | [] => []
  | item :: items => ofJson item :: itemsOfJson items

end

end Input

/-- The unchecked values of those settings that are configured. -/
abbrev Inputs := Field → Option Input

namespace Inputs

/-- `ofNamed values` looks each setting up by its name. -/
def ofNamed (values : List (String × Input)) : Inputs :=
  fun field ↦ values.lookup field.name

/-- Nothing is configured. -/
def empty : Inputs :=
  fun _ ↦ none

/-- `upper.orElse lower` takes each setting from `upper`, or else from `lower`. -/
def orElse (upper lower : Inputs) : Inputs :=
  fun field ↦ (upper field).or (lower field)

end Inputs

end AssistedDialing.Settings
