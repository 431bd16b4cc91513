import AssistedDialing.Yaml.Number
import AssistedDialing.Yaml.Tag
import AssistedDialing.Yaml.Timestamp

/-!
# What plain scalars stand for

A plain scalar without a tag gets one by its form: a truth value, a number, null, a timestamp, one
of the two special keys, or else a text. A line feed at the end does not count.
-/

namespace AssistedDialing.Yaml

open Text

/-- The words for truth values. -/
def boolWords : List String :=
  ["yes", "Yes", "YES", "no", "No", "NO", "true", "True", "TRUE", "false", "False", "FALSE",
   "on", "On", "ON", "off", "Off", "OFF"]

/-- The words for null. -/
def nullWords : List String :=
  ["~", "null", "Null", "NULL", ""]

/-- The words for an infinity, without its sign. -/
def infinityWords : List String :=
  [".inf", ".Inf", ".INF"]

/-- The words for NaN. -/
def nanWords : List String :=
  [".nan", ".NaN", ".NAN"]

/-- The marks that stand for no value. As they start something else in plain scalars, only a scalar
with the tag `!` can hold one of them alone. -/
def markWords : List String :=
  ["!", "&", "*"]

/-- `isOneOf words cs` holds when `cs` spells one of the words. -/
def isOneOf (words : List String) (cs : List Char) : Bool :=
  words.any fun word ↦ word.toList == cs

/-- `isDigits cs` holds for ASCII digits and underscores. -/
def isDigits (cs : List Char) : Bool :=
  cs.all fun c ↦ isAsciiDigit c || c == '_'

/-- `startsDigit cs` holds when `cs` starts with an ASCII digit. -/
def startsDigit (cs : List Char) : Bool :=
  cs.head?.any isAsciiDigit

/-- `startsCount cs` holds when `cs` starts with an ASCII digit other than 0. -/
def startsCount (cs : List Char) : Bool :=
  startsDigit cs && cs.head? != some '0'

/-- `isSexagesimalDigit cs` holds for the numbers below 60 in one or two digits. -/
def isSexagesimalDigit : List Char → Bool
  | [c] => isAsciiDigit c
  | [c, d] => isAsciiDigit c && c.toNat < '6'.toNat && isAsciiDigit d
  | _ => false

/-- `isUnsignedInteger cs` holds for the forms of an integer without a sign. -/
def isUnsignedInteger (cs : List Char) : Bool :=
  match cs with
  | ['0'] => true
  | '0' :: 'b' :: digits => !digits.isEmpty && digits.all (isAmong "01_")
  | '0' :: 'x' :: digits => !digits.isEmpty && digits.all fun c ↦ (hexValue? c).isSome || c == '_'
  | '0' :: digits => digits.all (isAmong "01234567_")
  | _ =>
      match cs.splitOn ':' with
      | first :: others => startsCount first && isDigits first && others.all isSexagesimalDigit
      | [] => false

/-- `isInteger cs` holds for the forms of an integer. -/
def isInteger (cs : List Char) : Bool :=
  isUnsignedInteger (signed cs).2

/-- `isExponent cs` holds for an exponent, which has a sign, and for nothing at all. -/
def isExponent : List Char → Bool
  | [] => true
  | mark :: sign :: digits =>
      isAmong "eE" mark && isAmong "+-" sign && !digits.isEmpty && digits.all isAsciiDigit
  | _ => false

/-- `isFraction marked whole cs` holds when `cs`, which follows a point behind `whole`, is the rest
of a number. `marked` holds behind a sign. A number that starts with the point has no sign, and a
digit behind the point. -/
def isFraction (marked : Bool) (whole cs : List Char) : Bool :=
  let rest := cs.dropWhile fun c ↦ isAsciiDigit c || c == '_'
  if whole.isEmpty then !marked && startsDigit cs && isExponent rest
  else
    match whole.splitOn ':' with
    | [digits] => startsDigit digits && isDigits digits && isExponent rest
    | first :: others =>
        startsDigit first && isDigits first && others.all isSexagesimalDigit && rest.isEmpty
    | [] => false

/-- `isFloat cs` holds for the forms of a floating-point number. -/
def isFloat (cs : List Char) : Bool :=
  let body := (signed cs).2
  let whole := body.takeWhile (· != '.')
  isOneOf infinityWords body || isOneOf nanWords cs ||
    (body.contains '.' &&
      isFraction (body.length < cs.length) whole (body.drop (whole.length + 1)))

/-- `isTimestamp cs` holds for a timestamp with a time, and for a date in which the month and the
day have two digits. -/
def isTimestamp (cs : List Char) : Bool :=
  match Timestamp.ofChars? cs with
  | some stamp => stamp.time.isSome || cs.length = 10
  | none => false

/-- `withoutLineFeed cs` drops one line feed at the end. -/
def withoutLineFeed (cs : List Char) : List Char :=
  if cs.getLast? == some '\n' && cs != ['\n'] then cs.dropLast else cs

/-- `Tag.ofPlain text` is the tag that the form of a plain scalar gives it. -/
def Tag.ofPlain (text : String) : Tag :=
  let cs := withoutLineFeed text.toList
  if isOneOf boolWords cs then .bool
  else if isFloat cs then .float
  else if isInteger cs then .int
  else if cs = ['<', '<'] then .merge
  else if isOneOf nullWords cs then .null
  else if isTimestamp cs then .timestamp
  else if cs = ['='] then .value
  else if isOneOf markWords cs then .other (Tag.standardStart ++ "yaml")
  else .str

end AssistedDialing.Yaml
