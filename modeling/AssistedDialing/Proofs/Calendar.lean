import AssistedDialing.Time.Date
import Mathlib

/-!
# The order of dates

`daysBefore` counts the days before a year without regard to the cycle of 400 years. A day lies in
the last year that begins no later (`le_year_iff`), so that later days have later dates
(`Date.ofDayNumber_before`).
-/

namespace AssistedDialing.Time

/-! ## Years -/

/-- `daysBefore year` is the number of the first day of a year. -/
def daysBefore (year : Int) : Int :=
  365 * (year - 1) + (year - 1) / 4 - (year - 1) / 100 + (year - 1) / 400

theorem sum_monthLengths (leap : Bool) : (monthLengths leap).sum = if leap then 366 else 365 := by
  cases leap <;> rfl

theorem daysBefore_succ (year : Int) :
    daysBefore (year + 1) = daysBefore year + (monthLengths (isLeapYear year)).sum := by
  rw [sum_monthLengths]
  simp only [daysBefore, isLeapYear, Bool.and_eq_true, Bool.or_eq_true, decide_eq_true_eq]
  split <;> omega

theorem daysBefore_strictMono : StrictMono daysBefore := by
  apply strictMono_int_of_lt_succ
  intro year
  rw [daysBefore_succ, sum_monthLengths]
  split <;> omega

/-- The parts of the cycle of 400 years that a day lies in. -/
theorem exists_cycle (n : Int) :
    ∃ (cycle : Int) (century quad single day : Nat),
      yearDay n =
          { year := 400 * cycle + (100 * century + 4 * quad + single + 1 : Nat)
            leap := single = 3 && (quad ≠ 24 || century = 3)
            dayOfYear := day } ∧
        n = 146097 * cycle + (36524 * century + 1461 * quad + 365 * single + day : Nat) ∧
        century ≤ 3 ∧ quad ≤ 24 ∧ single ≤ 3 :=
  ⟨_, _, _, _, _, rfl, by omega, by omega, by omega, by omega⟩

/-- A day is the first day of its year and as many days more as its place in the year says, and the
year is a leap year as it should be. -/
theorem yearDay_spec (n : Int) :
    n = daysBefore (yearDay n).year + (yearDay n).dayOfYear ∧
      (yearDay n).leap = isLeapYear (yearDay n).year := by
  obtain ⟨cycle, century, quad, single, day, hyear, hn, hcentury, hquad, hsingle⟩ := exists_cycle n
  rw [hyear]
  have hfour : (400 * cycle + (100 * century + 4 * quad + single + 1 : Nat) - 1) / 4 =
      100 * cycle + 25 * century + quad := by omega
  have hhundred : (400 * cycle + (100 * century + 4 * quad + single + 1 : Nat) - 1) / 100 =
      4 * cycle + century := by omega
  have hcycle : (400 * cycle + (100 * century + 4 * quad + single + 1 : Nat) - 1) / 400 =
      cycle := by omega
  constructor
  · simp only [daysBefore, hfour, hhundred, hcycle]
    omega
  · simp only [isLeapYear]
    rw [Bool.eq_iff_iff]
    simp only [Bool.and_eq_true, Bool.or_eq_true, decide_eq_true_eq]
    omega

theorem dayOfYear_lt (n : Int) : (yearDay n).dayOfYear < (monthLengths (yearDay n).leap).sum := by
  rw [sum_monthLengths]
  simp only [yearDay, Bool.and_eq_true, Bool.or_eq_true, decide_eq_true_eq]
  generalize (n % 146097).toNat = inCycle
  generalize hcentury : min 3 (inCycle / 36524) = century
  generalize hcenturyDay : inCycle - century * 36524 = inCentury
  have hquad : inCentury % 1461 < 1461 := Nat.mod_lt _ (by decide)
  split
  · omega
  · next hleap =>
    -- the fourth year of a leap cycle is common only at the end of a century, which is a day short
    by_cases hthree : inCentury % 1461 < 1095
    · have hsingle : min 3 (inCentury % 1461 / 365) = inCentury % 1461 / 365 := by omega
      rw [hsingle]
      omega
    · have hsingle : min 3 (inCentury % 1461 / 365) = 3 := by omega
      rw [hsingle] at hleap ⊢
      have hlast : inCentury / 1461 = 24 ∧ century ≠ 3 := by omega
      omega

/-- A day lies in a year or a later one exactly when the year begins no later. -/
theorem le_year_iff {year n : Int} : year ≤ (yearDay n).year ↔ daysBefore year ≤ n := by
  obtain ⟨hn, hleap⟩ := yearDay_spec n
  have hday := dayOfYear_lt n
  constructor
  · intro h
    have hle := daysBefore_strictMono.monotone h
    omega
  · intro h
    -- otherwise the year begins after the last day of the year that the day lies in
    by_contra hlater
    have hnext : (yearDay n).year + 1 ≤ year := by omega
    have hle := daysBefore_strictMono.monotone hnext
    rw [daysBefore_succ, ← hleap] at hle
    omega

/-! ## Months -/

theorem le_monthDay (month : Nat) (lengths : List Nat) (n : Nat) :
    month ≤ (monthDay month lengths n).1 ∧
      (monthDay month lengths n).1 ≤ month + lengths.length := by
  induction lengths generalizing month n with
  | nil => simp [monthDay]
  | cons length lengths ih =>
      rw [monthDay]
      split
      · simp
      · obtain ⟨hlower, hupper⟩ := ih (month + 1) (n - length)
        rw [List.length_cons]
        omega

/-- Later days lie in later months, or are later days of the same month. -/
theorem monthDay_before (month : Nat) (lengths : List Nat) {n m : Nat} (h : n < m) :
    (monthDay month lengths n).1 < (monthDay month lengths m).1 ∨
      (monthDay month lengths n).1 = (monthDay month lengths m).1 ∧
        (monthDay month lengths n).2 < (monthDay month lengths m).2 := by
  induction lengths generalizing month n m with
  | nil => simp [monthDay, h]
  | cons length lengths ih =>
      rw [monthDay, monthDay]
      split
      · split
        · right
          simpa using h
        · have hmonth := (le_monthDay (month + 1) lengths (m - length)).1
          left
          show month < _
          omega
      · next hn =>
        have hm : ¬ m < length := by omega
        rw [if_neg hm]
        exact ih (month + 1) (by omega)

/-- No month is longer than the longest one. -/
theorem monthDay_le {longest : Nat} (month : Nat) {lengths : List Nat}
    (hlongest : ∀ length ∈ lengths, length ≤ longest) {n : Nat} (h : n < lengths.sum) :
    (monthDay month lengths n).2 ≤ longest := by
  induction lengths generalizing month n with
  | nil => cases h
  | cons length lengths ih =>
      rw [List.forall_mem_cons] at hlongest
      rw [List.sum_cons] at h
      rw [monthDay]
      split
      · show n + 1 ≤ longest
        omega
      · exact ih (month + 1) hlongest.2 (by omega)

/-! ## Dates -/

namespace Date

/-- `date.Before other` says that a date is earlier than another. -/
def Before (date other : Date) : Prop :=
  date.year < other.year ∨ date.year = other.year ∧
    (date.month < other.month ∨ date.month = other.month ∧ date.day < other.day)

/-- The parts of a date. The month and the day have names here, so that no proof computes them. -/
theorem exists_ofDayNumber_eq (n : Int) :
    ∃ month day, monthDay 1 (monthLengths (yearDay n).leap) (yearDay n).dayOfYear = (month, day) ∧
      ofDayNumber n = ⟨(yearDay n).year, month, day⟩ := by
  rcases hmonth : monthDay 1 (monthLengths (yearDay n).leap) (yearDay n).dayOfYear
    with ⟨month, day⟩
  exact ⟨month, day, rfl, by simp only [ofDayNumber, hmonth]⟩

theorem year_ofDayNumber (n : Int) : (ofDayNumber n).year = (yearDay n).year := by
  obtain ⟨month, day, -, hdate⟩ := exists_ofDayNumber_eq n
  rw [hdate]

theorem length_monthLengths (leap : Bool) : (monthLengths leap).length = 12 :=
  rfl

/-- Months and days have two digits. -/
theorem ofDayNumber_bounds (n : Int) :
    (ofDayNumber n).month < 10 ^ 2 ∧ (ofDayNumber n).day < 10 ^ 2 := by
  obtain ⟨month, day, hmonth, hdate⟩ := exists_ofDayNumber_eq n
  have hupper := (le_monthDay 1 (monthLengths (yearDay n).leap) (yearDay n).dayOfYear).2
  have hlongest : ∀ length ∈ monthLengths (yearDay n).leap, length ≤ 31 := by
    cases (yearDay n).leap <;> decide
  have hday := monthDay_le 1 hlongest (dayOfYear_lt n)
  rw [length_monthLengths, hmonth] at hupper
  rw [hmonth] at hday
  rw [hdate]
  exact ⟨lt_of_le_of_lt hupper (by decide), lt_of_le_of_lt hday (by decide)⟩

/-- Later days have later dates. -/
theorem ofDayNumber_before {n m : Int} (h : n < m) : (ofDayNumber n).Before (ofDayNumber m) := by
  obtain ⟨hn, hleap⟩ := yearDay_spec n
  obtain ⟨hm, hleap'⟩ := yearDay_spec m
  obtain ⟨month, day, hmonth, hdate⟩ := exists_ofDayNumber_eq n
  obtain ⟨month', day', hmonth', hdate'⟩ := exists_ofDayNumber_eq m
  have hyear : (yearDay n).year ≤ (yearDay m).year := le_year_iff.mpr (by omega)
  rw [hdate, hdate', Before]
  rcases hyear.lt_or_eq with hearlier | hsame
  · exact .inl hearlier
  · -- in one year the months have the same lengths
    have hday : (yearDay n).dayOfYear < (yearDay m).dayOfYear := by
      rw [hsame] at hn
      omega
    have hleaps : (yearDay n).leap = (yearDay m).leap := by rw [hleap, hleap', hsame]
    have hmonths := monthDay_before 1 (monthLengths (yearDay m).leap) hday
    rw [hmonth', ← hleaps, hmonth] at hmonths
    exact .inr ⟨hsame, hmonths⟩

end Date

end AssistedDialing.Time
