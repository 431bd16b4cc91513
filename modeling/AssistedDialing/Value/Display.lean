import AssistedDialing.Binary64.Shortest
import AssistedDialing.Json.Writer
import AssistedDialing.Text.Quoted
import AssistedDialing.Value.Basic

/-!
# Displayed values

A value has two written forms. `display` is the form for reading: a text is written as it is.
`literal` is the form within a list or an object: a text is quoted and the other values that are not
JSON data say of which kind they are. `kind` names the kind of a value.
-/

namespace AssistedDialing.Value

open Text

/-- `boolText b` is a truth value with a capital letter. -/
def boolText (b : Bool) : String :=
  if b then "True" else "False"

/-- `intText n` is `n` in decimal digits. -/
def intText (n : Int) : String :=
  String.ofList (Json.intChars n)

mutual

/-- `value.literal` is the form of `value` within a list or an object. -/
def literal : Value → String
  | null => "None"
  | bool value => boolText value
  | int value => intText value
  | float value => value.text
  | text value => quoted value
  | list items => "[" ++ literalItems items ++ "]"
  | object fields => "\x7b" ++ literalFields fields ++ "\x7d"
  | reason value => value.quoted
  | source value => value.quoted
  | decimal value => "Decimal('" ++ value.text ++ "')"
  | path value => "PosixPath(" ++ quoted value.text ++ ")"

/-- `literalItems items` is the literals of the items with commas between them. -/
def literalItems : List Value → String
  | [] => ""
  | [item] => literal item
  | item :: items => literal item ++ ", " ++ literalItems items

/-- `literalFields fields` is the names and literals of the fields with commas between them. -/
def literalFields : List (String × Value) → String
  | [] => ""
  | [(name, value)] => quoted name ++ ": " ++ literal value
  | (name, value) :: fields => quoted name ++ ": " ++ literal value ++ ", " ++ literalFields fields

end

/-- `value.display` is the form of `value` for reading. -/
def display : Value → String
  | text value => value
  | reason value => value.display
  | source value => value.display
  | decimal value => value.text
  | path value => value.text
  | value => value.literal

/-- `value.kind` names the kind of `value`. -/
def kind : Value → String
  | null => "NoneType"
  | bool _ => "bool"
  | int _ => "int"
  | float _ => "float"
  | text _ => "str"
  | list _ => "list"
  | object _ => "dict"
  | reason _ => "IneligibleReason"
  | source _ => "CountryCodeSource"
  | decimal _ => "decimal.Decimal"
  | path _ => "PosixPath"

/-- `value.isEmpty` holds for null, false, zero and the empty text, list and object. -/
def isEmpty : Value → Bool
  | null => true
  | bool value => !value
  | int value => value == 0
  | float (.finite _ significand _) => significand == 0
  | text value => value.isEmpty
  | list items => items.isEmpty
  | object fields => fields.isEmpty
  | decimal (.finite _ digits _) => digits.all (· == '0')
  | _ => false

end AssistedDialing.Value
