import AssistedDialing.Text.Digit
import AssistedDialing.Time.Date
import AssistedDialing.Value.Basic
import AssistedDialing.Value.Display

/-!
# Instants

An `Instant` is a time in UTC to the microsecond. `Instant.ofValue` reads the seconds since the
beginning of 1970, rounding half to even, and refuses times outside the years 1 to 9999.
`Instant.isoText` and `Instant.clockText` write an instant.
-/

namespace AssistedDialing.Time

open Text

/-- Why a value is no time. -/
inductive TimeError where
  | notNumber (kind : String)
  | undefined
  | tooFar
  | unrepresentable
  | yearOutOfRange (year : Int)
  deriving DecidableEq, Repr, Inhabited

namespace TimeError

/-- `error.message` says what is wrong. -/
def message : TimeError → String
  | notNumber kind => "'" ++ kind ++ "' object cannot be interpreted as an integer"
  | undefined => "Invalid value NaN (not a number)"
  | tooFar => "timestamp out of range for platform time_t"
  | unrepresentable => "[Errno 75] Value too large for defined data type"
  | yearOutOfRange year => "year " ++ Value.intText year ++ " is out of range"

end TimeError

/-- A time, as microseconds since the beginning of 1970. -/
structure Instant where
  micros : Int
  deriving DecidableEq, Repr, Inhabited

namespace Instant

/-- The number of the first day of 1970. -/
def epochDay : Int := 719162

/-- `instant.seconds` is the whole seconds since the beginning of 1970. -/
def seconds (instant : Instant) : Int :=
  instant.micros / 1000000

/-- `instant.date` is the day of an instant. -/
def date (instant : Instant) : Date :=
  .ofDayNumber (epochDay + instant.seconds / 86400)

/-- `instant.secondOfDay` is the seconds since midnight. -/
def secondOfDay (instant : Instant) : Nat :=
  (instant.seconds % 86400).toNat

/-- `instant.microsecond` is the microseconds since the beginning of the second. -/
def microsecond (instant : Instant) : Nat :=
  (instant.micros % 1000000).toNat

/-- `fitsIn bits n` holds when `bits` bits can hold the signed integer `n`. -/
def fitsIn (bits : Nat) (n : Int) : Bool :=
  let bound : Nat := Nat.pow 2 (bits - 1)
  decide (-(bound : Int) ≤ n ∧ n < bound)

/-- `checked instant` is the instant, if it lies in the years 1 to 9999. Seconds that need more than
64 bits, and years after 1900 that need more than 32, are refused on their own. The year that is
reported wraps around at 32 bits. -/
def checked (instant : Instant) : Except TimeError Instant :=
  let year := instant.date.year
  if !fitsIn 64 instant.seconds then .error .tooFar
  else if !fitsIn 32 (year - 1900) then .error .unrepresentable
  else if year < 1 || 9999 < year then .error (.yearOutOfRange (year.bmod 0x100000000))
  else .ok instant

/-- `nearestInteger x` is a finite number rounded half to even. -/
def nearestInteger (x : Binary64) : Int :=
  match x.ratio? with
  | some (negative, num, den) => if negative then -(halfEven num den : Int) else halfEven num den
  | none => 0

/-- `microsOfFloat whole x` is the microseconds in `x` seconds whose integer part is `whole`. The
fraction is scaled as a floating-point number before it is rounded. -/
def microsOfFloat (whole : Int) (x : Binary64) : Int :=
  let fraction := x.addFinite (Binary64.ofInt whole).negate
  whole * 1000000 + nearestInteger (fraction.mulFinite (Binary64.ofInt 1000000))

/-- `ofInt n` is `n` seconds after the beginning of 1970. -/
def ofInt (n : Int) : Except TimeError Instant :=
  checked ⟨n * 1000000⟩

/-- `ofValue value` is so many seconds after the beginning of 1970. -/
def ofValue : Value → Except TimeError Instant
  | .int n => ofInt n
  | .bool b => ofInt (if b then 1 else 0)
  | .float .nan => .error .undefined
  | .float x =>
      match x.truncate? with
      | some whole => checked ⟨microsOfFloat whole x⟩
      | none => .error .tooFar
  | value => .error (.notNumber value.kind)

/-- `dateChars instant` is the date with hyphens. -/
def dateChars (instant : Instant) : List Char :=
  let date := instant.date
  decimalDigits 4 date.year.toNat ++ '-' :: decimalDigits 2 date.month ++
    '-' :: decimalDigits 2 date.day

/-- `timeChars instant` is the time of the day to the second, with colons. -/
def timeChars (instant : Instant) : List Char :=
  let second := instant.secondOfDay
  decimalDigits 2 (second / 3600) ++ ':' :: decimalDigits 2 (second / 60 % 60) ++
    ':' :: decimalDigits 2 (second % 60)

/-- `isoChars instant` is the date and the time. Microseconds follow unless they are 0. -/
def isoChars (instant : Instant) : List Char :=
  let fraction :=
    if instant.microsecond = 0 then [] else '.' :: decimalDigits 6 instant.microsecond
  instant.dateChars ++ 'T' :: instant.timeChars ++ fraction ++ "+00:00".toList

/-- `isoText instant` is the date and the time in the form of a timestamp. -/
def isoText (instant : Instant) : String :=
  String.ofList instant.isoChars

/-- `clockText instant` is the date and the time with milliseconds, for a reader. -/
def clockText (instant : Instant) : String :=
  String.ofList (instant.dateChars ++ ' ' :: instant.timeChars ++
    ',' :: decimalDigits 3 (instant.microsecond / 1000))

end Instant

end AssistedDialing.Time
