import AssistedDialing.DigitLimit
import AssistedDialing.Text.Quoted
import AssistedDialing.Value.Display

/-!
# Why a YAML text has no value

A text can be malformed or nest collections too deep, and a scalar can have a form that its type
does not admit. All malformed texts are one failure; the failures of scalars say what is wrong.
-/

namespace AssistedDialing.Yaml

/-- What is wrong with a date or a time. -/
inductive DateFailure where
  | year
  | month
  | day
  | hour
  | minute
  | second
  | offset (minutes : Int)
  deriving DecidableEq, Repr, Inhabited

namespace DateFailure

/-- `spanText minutes` shows a span of time as days and seconds. -/
def spanText (minutes : Int) : String :=
  let seconds := 60 * (minutes % 1440)
  "datetime.timedelta(days=" ++ Value.intText (minutes / 1440) ++
    (if seconds = 0 then "" else ", seconds=" ++ Value.intText seconds) ++ ")"

/-- `failure.message` says what is wrong. -/
def message : DateFailure → String
  | year => "year 0 is out of range"
  | month => "month must be in 1..12"
  | day => "day is out of range for month"
  | hour => "hour must be in 0..23"
  | minute => "minute must be in 0..59"
  | second => "second must be in 0..59"
  | offset minutes =>
      "offset must be a timedelta strictly between -timedelta(hours=24) and " ++
        "timedelta(hours=24), not " ++ spanText minutes ++ "."

end DateFailure

/-- Why a YAML text has no value. -/
inductive Failure where
  | malformed
  | tooDeep
  | noCharacter
  | hugeCharacter
  | notInteger (base : Nat) (text : String)
  | tooManyDigits (count : Nat)
  | notFloat (text : String)
  | tooManyPlaces
  | emptyNumber
  | notBool (text : String)
  | notTimestamp
  | timestampOfMapping
  | badDate (failure : DateFailure)
  deriving DecidableEq, Repr, Inhabited

namespace Failure

/-- `excerpt text` is the quoted form of a text, cut after 200 characters. -/
def excerpt (text : String) : String :=
  String.ofList ((Text.quotedChars text.toList).take 200)

/-- `failure.message` says what is wrong. -/
def message : Failure → String
  | malformed => "the document is malformed"
  | tooDeep => "maximum recursion depth exceeded while calling a Python object"
  | noCharacter => "chr() arg not in range(0x110000)"
  | hugeCharacter => "Python int too large to convert to C int"
  | notInteger base text =>
      "invalid literal for int() with base " ++ toString base ++ ": " ++ excerpt text
  | tooManyDigits count => DigitLimit.unreadableText count
  | notFloat text => "could not convert string to float: " ++ Text.quoted text
  | tooManyPlaces => "int too large to convert to float"
  | emptyNumber => "string index out of range"
  | notBool text => Text.quoted text
  | notTimestamp => "'NoneType' object has no attribute 'groupdict'"
  | timestampOfMapping => "expected string or bytes-like object, got 'list'"
  | badDate failure => failure.message

end Failure

end AssistedDialing.Yaml
