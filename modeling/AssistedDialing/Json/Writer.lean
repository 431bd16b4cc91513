import AssistedDialing.Binary64.Shortest
import AssistedDialing.Json.Basic
import AssistedDialing.Text.Hexadecimal

/-!
# Writing JSON

`compact` writes a value on one line without spaces and keeps the characters beyond ASCII.
`indented` writes one item a line, two spaces a level, the fields of every object in the order of
their names, and only ASCII: a character beyond it becomes one or two escaped code units.
-/

namespace AssistedDialing.Json

open Text

/-- `escapedUnit unit` is a code unit of 16 bits as an escape. -/
def escapedUnit (unit : Nat) : List Char :=
  '\\' :: 'u' :: hexDigits 4 unit

/-- `controlEscape c` is the escape of a control character. -/
def controlEscape (c : Char) : List Char :=
  if c = '\n' then ['\\', 'n']
  else if c = '\r' then ['\\', 'r']
  else if c = '\t' then ['\\', 't']
  else if c.toNat = 8 then ['\\', 'b']
  else if c.toNat = 12 then ['\\', 'f']
  else escapedUnit c.toNat

/-- `escapedChar c` is `c` within a string, where only quotation marks, backslashes and control
characters need an escape. -/
def escapedChar (c : Char) : List Char :=
  if c = '\"' || c = '\\' then ['\\', c]
  else if c.toNat < 0x20 then controlEscape c
  else [c]

/-- `asciiChar c` is `c` within a string of ASCII characters. -/
def asciiChar (c : Char) : List Char :=
  if c.toNat < 0x7F then escapedChar c
  else if c.toNat < 0x10000 then escapedUnit c.toNat
  else
    let offset := c.toNat - 0x10000
    escapedUnit (0xD800 + offset / 0x400) ++ escapedUnit (0xDC00 + offset % 0x400)

/-- `stringWith escape s` is a string literal whose characters are written by `escape`. -/
def stringWith (escape : Char → List Char) (s : String) : List Char :=
  '\"' :: s.toList.flatMap escape ++ ['\"']

/-- `intChars n` is `n` in decimal digits. -/
def intChars (n : Int) : List Char :=
  if n < 0 then '-' :: Nat.toDigits 10 n.natAbs else Nat.toDigits 10 n.natAbs

/-- `floatChars x` is the shortest form of `x`, with names for the values that are no numbers. -/
def floatChars : Binary64 → List Char
  | .nan => "NaN".toList
  | .infinite negative => if negative then "-Infinity".toList else "Infinity".toList
  | x => x.textChars

mutual

/-- `compactChars json` writes `json` on one line without spaces. -/
def compactChars : Json → List Char
  | null => "null".toList
  | bool value => if value then "true".toList else "false".toList
  | int value => intChars value
  | float value => floatChars value
  | text value => stringWith escapedChar value
  | array items => '[' :: compactItems items
  | object fields => '\x7b' :: compactFields fields

/-- `compactItems items` writes the items of an array and the bracket that closes it. -/
def compactItems : List Json → List Char
  | [] => [']']
  | [item] => compactChars item ++ [']']
  | item :: items => compactChars item ++ ',' :: compactItems items

/-- `compactFields fields` writes the fields of an object and the brace that closes it. -/
def compactFields : List (String × Json) → List Char
  | [] => ['\x7d']
  | [(name, value)] => stringWith escapedChar name ++ ':' :: (compactChars value ++ ['\x7d'])
  | (name, value) :: fields =>
      stringWith escapedChar name ++ ':' :: (compactChars value ++ ',' :: compactFields fields)

end

/-- `compact json` is `json` on one line without spaces. -/
def compact (json : Json) : String :=
  String.ofList json.compactChars

/-- `byName fields` is the fields in the order of their names, by code point. -/
def byName (fields : List (String × Json)) : List (String × Json) :=
  fields.mergeSort fun x y ↦ x.1 ≤ y.1

mutual

/-- `sorted json` has the fields of every object in the order of their names. -/
def sorted : Json → Json
  | array items => array (sortedItems items)
  | object fields => object (byName (sortedFields fields))
  | json => json

/-- `sortedItems items` sorts the objects in each item. -/
def sortedItems : List Json → List Json
  | [] => []
  | item :: items => sorted item :: sortedItems items

/-- `sortedFields fields` sorts the objects in each field. -/
def sortedFields : List (String × Json) → List (String × Json)
  | [] => []
  | (name, value) :: fields => (name, sorted value) :: sortedFields fields

end

/-- `newLine depth` starts a line at a depth of two spaces a level. -/
def newLine (depth : Nat) : List Char :=
  '\n' :: List.replicate (2 * depth) ' '

mutual

/-- `indentedChars depth json` writes `json` from a line at `depth` on. -/
def indentedChars (depth : Nat) : Json → List Char
  | null => "null".toList
  | bool value => if value then "true".toList else "false".toList
  | int value => intChars value
  | float value => floatChars value
  | text value => stringWith asciiChar value
  | array [] => "[]".toList
  | array (item :: items) =>
      '[' :: newLine (depth + 1) ++ indentedChars (depth + 1) item ++ indentedItems depth items
  | object [] => ['\x7b', '\x7d']
  | object ((name, value) :: fields) =>
      '\x7b' :: newLine (depth + 1) ++ stringWith asciiChar name ++ ':' :: ' ' ::
        indentedChars (depth + 1) value ++ indentedFields depth fields

/-- `indentedItems depth items` writes the remaining items of an array at `depth`. -/
def indentedItems (depth : Nat) : List Json → List Char
  | [] => newLine depth ++ [']']
  | item :: items =>
      ',' :: newLine (depth + 1) ++ indentedChars (depth + 1) item ++ indentedItems depth items

/-- `indentedFields depth fields` writes the remaining fields of an object at `depth`. -/
def indentedFields (depth : Nat) : List (String × Json) → List Char
  | [] => newLine depth ++ ['\x7d']
  | (name, value) :: fields =>
      ',' :: newLine (depth + 1) ++ stringWith asciiChar name ++ ':' :: ' ' ::
        indentedChars (depth + 1) value ++ indentedFields depth fields

end

/-- `indented json` is `json` with one item a line, sorted fields and only ASCII characters. -/
def indented (json : Json) : String :=
  String.ofList (json.sorted.indentedChars 0)

end AssistedDialing.Json
