/-!
# Dates

A `Date` is a day of the Gregorian calendar. Days are numbered from the first day of the year 1, and
`Date.ofDayNumber` finds the date of a day in the cycle of 400 years.
-/

namespace AssistedDialing.Time

/-- A day of the calendar. -/
structure Date where
  year : Int
  month : Nat
  day : Nat
  deriving DecidableEq, Repr, Inhabited

/-- A year and the number of a day in it, from 0. -/
structure YearDay where
  year : Int
  leap : Bool
  dayOfYear : Nat
  deriving DecidableEq, Repr, Inhabited

/-- `yearDay n` is the year of the day with the number `n`. A cycle of 400 years has 146097 days;
the last of its four centuries, and the last year of a leap cycle, is one day longer. -/
def yearDay (n : Int) : YearDay :=
  let cycle := n / 146097
  let inCycle := (n % 146097).toNat
  let century := min 3 (inCycle / 36524)
  let inCentury := inCycle - century * 36524
  let quad := inCentury / 1461
  let inQuad := inCentury % 1461
  let single := min 3 (inQuad / 365)
  { year := 400 * cycle + (100 * century + 4 * quad + single + 1 : Nat)
    leap := single = 3 && (quad ≠ 24 || century = 3)
    dayOfYear := inQuad - single * 365 }

/-- `monthLengths leap` is the lengths of the months of a year. -/
def monthLengths (leap : Bool) : List Nat :=
  [31, if leap then 29 else 28, 31, 30, 31, 30, 31, 31, 30, 31, 30, 31]

/-- `monthDay month lengths n` is the month and the day that is `n` days after the beginning of the
month numbered `month`, where `lengths` are the lengths of that month and the following ones. -/
def monthDay : Nat → List Nat → Nat → Nat × Nat
  | month, [], n => (month, n + 1)
  | month, length :: lengths, n =>
      if n < length then (month, n + 1) else monthDay (month + 1) lengths (n - length)

namespace Date

/-- `ofDayNumber n` is the date of the day with the number `n`. -/
def ofDayNumber (n : Int) : Date :=
  let found := yearDay n
  let (month, day) := monthDay 1 (monthLengths found.leap) found.dayOfYear
  ⟨found.year, month, day⟩

end Date

/-- `isLeapYear year` holds when `year` has a 29th of February. -/
def isLeapYear (year : Int) : Bool :=
  year % 4 = 0 && (year % 100 ≠ 0 || year % 400 = 0)

end AssistedDialing.Time
