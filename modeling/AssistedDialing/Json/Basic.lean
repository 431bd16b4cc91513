import AssistedDialing.Binary64.Basic

/-!
# JSON values

A JSON value, with integers of any size apart from binary floating-point numbers and the fields of
an object in their order.
-/

namespace AssistedDialing

/-- A JSON value. -/
inductive Json where
  | null
  | bool (value : Bool)
  | int (value : Int)
  | float (value : Binary64)
  | text (value : String)
  | array (items : List Json)
  | object (fields : List (String × Json))
  deriving Repr, Inhabited

namespace Json

/-- `lookup name fields` is the value of the first field called `name`. -/
def lookup (name : String) (fields : List (String × Json)) : Option Json :=
  List.lookup name fields

/-- `json.field? name` is the value of a field of an object. -/
def field? (name : String) : Json → Option Json
  | object fields => lookup name fields
  | _ => none

end Json

end AssistedDialing
