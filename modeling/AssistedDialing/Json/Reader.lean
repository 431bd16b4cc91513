import AssistedDialing.Json.Basic
import AssistedDialing.Text.Digit
import AssistedDialing.Text.Hexadecimal

/-!
# Reading JSON

`Json.read?` reads one JSON value. A number with a fraction or an exponent is a binary
floating-point number and any other an integer. Two escaped code units that form a surrogate pair
are one character; a code unit of half a pair stands for U+FFFD.
-/

namespace AssistedDialing.Json

open Text

/-- `isSpace c` holds for the white space of JSON. -/
def isSpace (c : Char) : Bool :=
  c == ' ' || c == '\n' || c == '\r' || c == '\t'

/-- `skipSpace cs` drops the white space that `cs` begins with. -/
def skipSpace (cs : List Char) : List Char :=
  cs.dropWhile isSpace

/-- `unit? cs` reads the four digits of an escaped code unit. -/
def unit? : List Char → Option (Nat × List Char)
  | a :: b :: c :: d :: cs => (hexNumber? [a, b, c, d]).map (·, cs)
  | _ => none

/-- `isHigh unit` holds for the first half of a surrogate pair. -/
def isHigh (unit : Nat) : Bool :=
  0xD800 ≤ unit && unit < 0xDC00

/-- `isLow unit` holds for the second half of a surrogate pair. -/
def isLow (unit : Nat) : Bool :=
  0xDC00 ≤ unit && unit < 0xE000

/-- `unitChar unit` is the character of a code unit that is no half of a pair. -/
def unitChar (unit : Nat) : Char :=
  if isHigh unit || isLow unit then Char.ofNat 0xFFFD else Char.ofNat unit

/-- `escaped? cs` reads the character that an escape stands for, from behind its backslash on. -/
def escaped? : List Char → Option (Char × List Char)
  | '\"' :: cs => some ('\"', cs)
  | '\\' :: cs => some ('\\', cs)
  | '/' :: cs => some ('/', cs)
  | 'b' :: cs => some (Char.ofNat 8, cs)
  | 'f' :: cs => some (Char.ofNat 12, cs)
  | 'n' :: cs => some ('\n', cs)
  | 'r' :: cs => some ('\r', cs)
  | 't' :: cs => some ('\t', cs)
  | 'u' :: cs => do
      let (unit, rest) ← unit? cs
      if isHigh unit then
        match rest with
        | '\\' :: 'u' :: more =>
            match unit? more with
            | some (low, rest') =>
                if isLow low then
                  return (Char.ofNat (0x10000 + (unit - 0xD800) * 0x400 + (low - 0xDC00)), rest')
                else return (unitChar unit, rest)
            | none => none
        | _ => return (unitChar unit, rest)
      else return (unitChar unit, rest)
  | _ => none

/-- `stringBody? fuel cs` reads the characters of a string and its closing quotation mark. -/
def stringBody? : Nat → List Char → Option (List Char × List Char)
  | 0, _ => none
  | _ + 1, [] => none
  | fuel + 1, c :: cs =>
      if c = '\"' then some ([], cs)
      else if c = '\\' then do
        let (d, rest) ← escaped? cs
        let (ds, rest') ← stringBody? fuel rest
        return (d :: ds, rest')
      else if c.toNat < 0x20 then none
      else do
        let (ds, rest) ← stringBody? fuel cs
        return (c :: ds, rest)

/-- `string? cs` reads a string from behind its opening quotation mark on. -/
def string? (cs : List Char) : Option (String × List Char) :=
  (stringBody? (cs.length + 1) cs).map fun (ds, rest) ↦ (String.ofList ds, rest)

/-- `digitRun cs` separates the ASCII digits that `cs` begins with. -/
def digitRun (cs : List Char) : List Char × List Char :=
  (cs.takeWhile isAsciiDigit, cs.dropWhile isAsciiDigit)

/-- `fraction cs` reads a point with digits behind it, if there is one. -/
def fraction : List Char → Option (List Char) × List Char
  | '.' :: cs =>
      let (digits, rest) := digitRun cs
      if digits.isEmpty then (none, '.' :: cs) else (some digits, rest)
  | cs => (none, cs)

/-- `exponentSign cs` reads the sign of an exponent: whether it is negative, and the rest. -/
def exponentSign : List Char → Bool × List Char
  | '-' :: cs => (true, cs)
  | '+' :: cs => (false, cs)
  | cs => (false, cs)

/-- `exponent cs` reads an exponent, if there is one. -/
def exponent (cs : List Char) : Option Int × List Char :=
  match cs with
  | [] => (none, [])
  | c :: rest =>
      if c = 'e' || c = 'E' then
        let (negative, body) := exponentSign rest
        let (digits, rest') := digitRun body
        match asciiNumber? digits with
        | some n => (some (if negative then -(n : Int) else n), rest')
        | none => (none, cs)
      else (none, cs)

/-- `unsigned? negative cs` reads a number from behind its sign on. -/
def unsigned? (negative : Bool) (cs : List Char) : Option (Json × List Char) := do
  let (whole, rest) := digitRun cs
  let n ← asciiNumber? whole
  let (places, rest) := fraction rest
  let (power, rest) := exponent rest
  if places.isNone && power.isNone then
    return (int (if negative then -(n : Int) else n), rest)
  else
    let digits := (asciiNumber? (whole ++ places.getD [])).getD n
    let scale : Int := power.getD 0 - (places.getD []).length
    return (float (Binary64.ofScientific negative digits scale), rest)

/-- `number? cs` reads a number. -/
def number? : List Char → Option (Json × List Char)
  | '-' :: cs => unsigned? true cs
  | cs => unsigned? false cs

/-- `keyword? cs` reads one of the names that stand for a value. -/
def keyword? (cs : List Char) : Option (Json × List Char) :=
  let names : List (String × Json) :=
    [("null", null), ("true", bool true), ("false", bool false), ("NaN", float .nan),
     ("Infinity", float (.infinite false)), ("-Infinity", float (.infinite true))]
  names.findSome? fun (name, json) ↦
    if name.toList.isPrefixOf cs then some (json, cs.drop name.toList.length) else none

mutual

/-- `value? fuel cs` reads a value and the white space before it. -/
def value? : Nat → List Char → Option (Json × List Char)
  | 0, _ => none
  | fuel + 1, cs =>
      match skipSpace cs with
      | '\"' :: rest => (string? rest).map fun (s, rest) ↦ (text s, rest)
      | '[' :: rest =>
          match skipSpace rest with
          | ']' :: rest => some (array [], rest)
          | rest => (items? fuel rest).map fun (items, rest) ↦ (array items, rest)
      | '\x7b' :: rest =>
          match skipSpace rest with
          | '\x7d' :: rest => some (object [], rest)
          | rest => (fields? fuel rest).map fun (fields, rest) ↦ (object fields, rest)
      | rest =>
          match keyword? rest with
          | some result => some result
          | none => number? rest

/-- `items? fuel cs` reads the items of an array and the bracket that closes it. -/
def items? : Nat → List Char → Option (List Json × List Char)
  | 0, _ => none
  | fuel + 1, cs => do
      let (item, rest) ← value? fuel cs
      match skipSpace rest with
      | ',' :: rest =>
          let (items, rest) ← items? fuel rest
          return (item :: items, rest)
      | ']' :: rest => return ([item], rest)
      | _ => none

/-- `fields? fuel cs` reads the fields of an object and the brace that closes it. -/
def fields? : Nat → List Char → Option (List (String × Json) × List Char)
  | 0, _ => none
  | fuel + 1, cs =>
      match skipSpace cs with
      | '\"' :: rest => do
          let (name, rest) ← string? rest
          match skipSpace rest with
          | ':' :: rest =>
              let (value, rest) ← value? fuel rest
              match skipSpace rest with
              | ',' :: rest =>
                  let (fields, rest) ← fields? fuel rest
                  return ((name, value) :: fields, rest)
              | '\x7d' :: rest => return ([(name, value)], rest)
              | _ => none
          | _ => none
      | _ => none

end

/-- `readChars? cs` reads one value that is the whole of `cs` apart from white space. -/
def readChars? (cs : List Char) : Option Json :=
  match value? (cs.length + 1) cs with
  | some (json, rest) => if (skipSpace rest).isEmpty then some json else none
  | none => none

/-- `read? s` reads one value that is the whole of `s` apart from white space. -/
def read? (s : String) : Option Json :=
  readChars? s.toList

end AssistedDialing.Json
