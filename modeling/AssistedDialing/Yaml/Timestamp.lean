import AssistedDialing.Text.Digit
import AssistedDialing.Time.Date
import AssistedDialing.Yaml.Character
import AssistedDialing.Yaml.Failure

/-!
# Timestamps in YAML

A timestamp is a date, which may be followed by a time of day and its offset from universal time.
`Timestamp.ofChars?` reads the form alone; `Timestamp.failure?` says whether there is such a day and
time.
-/

namespace AssistedDialing.Yaml

open Text

/-- A time of day. The offset from universal time is given in minutes. -/
structure ClockTime where
  hour : Nat
  minute : Nat
  second : Nat
  offset : Option Int
  deriving DecidableEq, Repr, Inhabited

/-- A date and a time of day as they are written. -/
structure Timestamp where
  year : Nat
  month : Nat
  day : Nat
  time : Option ClockTime
  deriving DecidableEq, Repr, Inhabited

/-- `fixedNumber? count cs` reads a number of exactly `count` digits. -/
def fixedNumber? (count : Nat) (cs : List Char) : Option (Nat × List Char) :=
  if cs.length < count then none
  else (asciiNumber? (cs.take count)).map (·, cs.drop count)

/-- `shortNumber? cs` reads a number of one or two digits. -/
def shortNumber? (cs : List Char) : Option (Nat × List Char) :=
  (fixedNumber? 2 cs).or (fixedNumber? 1 cs)

/-- `mark? c cs` drops the character `c`. -/
def mark? (c : Char) : List Char → Option (List Char)
  | d :: cs => if d = c then some cs else none
  | [] => none

/-- `offset? cs` reads the offset at the end of a timestamp: none, `Z`, or hours and minutes. -/
def offset? (cs : List Char) : Option (Option Int) :=
  match cs with
  | [] => some none
  | _ =>
      match cs.dropWhile isBlank with
      | ['Z'] => some (some 0)
      | sign :: rest => do
          let (hours, rest) ← shortNumber? rest
          let minutes ← match rest with
            | [] => some 0
            | _ => match mark? ':' rest >>= fixedNumber? 2 with
              | some (minutes, []) => some minutes
              | _ => none
          let offset : Int := 60 * hours + minutes
          if sign = '+' then return some offset
          else if sign = '-' then return some (-offset)
          else none
      | [] => none

/-- `beforeTime? cs` drops what separates the date and the time of day. -/
def beforeTime? (cs : List Char) : Option (List Char) :=
  match cs with
  | 'T' :: rest => some rest
  | 't' :: rest => some rest
  | _ => if cs.head?.any isBlank then some (cs.dropWhile isBlank) else none

/-- `clockTime? cs` reads a time of day with a fraction of a second, which is overlooked, and an
offset. -/
def clockTime? (cs : List Char) : Option ClockTime := do
  let (hour, cs) ← shortNumber? cs
  let (minute, cs) ← mark? ':' cs >>= fixedNumber? 2
  let (second, cs) ← mark? ':' cs >>= fixedNumber? 2
  let cs := match mark? '.' cs with
    | some fraction => fraction.dropWhile isAsciiDigit
    | none => cs
  return ⟨hour, minute, second, ← offset? cs⟩

namespace Timestamp

/-- `ofChars? cs` reads a timestamp. -/
def ofChars? (cs : List Char) : Option Timestamp := do
  let (year, cs) ← fixedNumber? 4 cs
  let (month, cs) ← mark? '-' cs >>= shortNumber?
  let (day, cs) ← mark? '-' cs >>= shortNumber?
  if cs.isEmpty then return ⟨year, month, day, none⟩
  else return ⟨year, month, day, some (← beforeTime? cs >>= clockTime?)⟩

/-- `stamp.dateFailure?` says what is wrong with the date. -/
def dateFailure? (stamp : Timestamp) : Option DateFailure :=
  let days := (Time.monthLengths (Time.isLeapYear stamp.year))[stamp.month - 1]?.getD 0
  if stamp.year = 0 then some .year
  else if stamp.month = 0 || 12 < stamp.month then some .month
  else if stamp.day = 0 || days < stamp.day then some .day
  else none

/-- `stamp.failure?` says what is wrong with the timestamp. An offset must be less than a day. -/
def failure? (stamp : Timestamp) : Option DateFailure :=
  match stamp.time with
  | none => stamp.dateFailure?
  | some time =>
      let offset := time.offset.getD 0
      if 1440 ≤ offset.natAbs then some (.offset offset)
      else stamp.dateFailure?.or <|
        if 23 < time.hour then some .hour
        else if 59 < time.minute then some .minute
        else if 59 < time.second then some .second
        else none

end Timestamp

end AssistedDialing.Yaml
