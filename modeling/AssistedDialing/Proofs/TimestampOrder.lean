import AssistedDialing.Proofs.Calendar
import AssistedDialing.Proofs.TextOrder
import AssistedDialing.Time.Instant

/-!
# The order of timestamps

A timestamp is written from its largest unit to its smallest with fixed widths, so that timestamps
of the years 1 to 9999 are in the order of the instants, as texts (`isoText_strictMonoOn`). The fraction
of a second is left out when it is 0: then the sign of the offset is compared with the point of
another fraction, and it comes first.
-/

namespace AssistedDialing.Time.Instant

open Text

variable {instant other : Instant} {rest rest' : List Char}

/-- `instant.InCalendar` says that an instant lies in the years 1 to 9999. -/
def InCalendar (instant : Instant) : Prop :=
  -62135596800000000 ≤ instant.micros ∧ instant.micros < 253402300800000000

theorem inCalendar_iff :
    instant.InCalendar ↔ 1 ≤ instant.date.year ∧ instant.date.year ≤ 9999 := by
  have hfirst : 1 ≤ instant.date.year ↔ 0 ≤ epochDay + instant.seconds / 86400 := by
    rw [date, Date.year_ofDayNumber]
    exact le_year_iff
  have hlast : 10000 ≤ instant.date.year ↔ 3652059 ≤ epochDay + instant.seconds / 86400 := by
    rw [date, Date.year_ofDayNumber]
    exact le_year_iff
  simp only [InCalendar, seconds, epochDay] at hfirst hlast ⊢
  omega

theorem dateChars_append_lt (hyear : 1 ≤ instant.date.year) (hother : other.InCalendar)
    (h : instant.date.Before other.date ∨ instant.date = other.date ∧ rest < rest') :
    instant.dateChars ++ rest < other.dateChars ++ rest' := by
  obtain ⟨hfirst, hlast⟩ := inCalendar_iff.mp hother
  obtain ⟨hmonth, hday⟩ := Date.ofDayNumber_bounds (epochDay + other.seconds / 86400)
  simp only [dateChars, List.append_assoc, List.cons_append]
  apply decimalDigits_append_lt (by omega)
  obtain (hearlier | ⟨hsame, hmonths⟩) | ⟨hsame, hrest⟩ := h
  · left
    omega
  · refine .inr ⟨by rw [hsame], .cons (decimalDigits_append_lt hmonth ?_)⟩
    obtain hearlier | ⟨hsame, hdays⟩ := hmonths
    · exact .inl hearlier
    · exact .inr ⟨hsame, .cons (decimalDigits_append_lt hday (.inl hdays))⟩
  · rw [hsame]
    exact .inr ⟨rfl, .cons (decimalDigits_append_lt hmonth
      (.inr ⟨rfl, .cons (decimalDigits_append_lt hday (.inr ⟨rfl, hrest⟩))⟩))⟩

theorem timeChars_append_lt
    (h : instant.secondOfDay < other.secondOfDay ∨
      instant.secondOfDay = other.secondOfDay ∧ rest < rest') :
    instant.timeChars ++ rest < other.timeChars ++ rest' := by
  have hday : other.secondOfDay < 86400 := by
    rw [secondOfDay]
    omega
  simp only [timeChars, List.append_assoc, List.cons_append]
  generalize instant.secondOfDay = second at h
  generalize other.secondOfDay = second' at h hday
  -- hours, minutes and seconds are compared one after the other
  apply decimalDigits_append_lt (by omega)
  by_cases hhour : second / 3600 = second' / 3600
  · refine .inr ⟨hhour, .cons (decimalDigits_append_lt (by omega) ?_)⟩
    by_cases hminute : second / 60 % 60 = second' / 60 % 60
    · refine .inr ⟨hminute, .cons (decimalDigits_append_lt (by omega) ?_)⟩
      obtain hless | ⟨hsame, hrest⟩ := h
      · left
        omega
      · exact .inr ⟨by rw [hsame], hrest⟩
    · left
      omega
  · left
    omega

/-- `instant.fractionChars` is the fraction of a second with its point, unless it is 0. -/
def fractionChars (instant : Instant) : List Char :=
  if instant.microsecond = 0 then [] else '.' :: decimalDigits 6 instant.microsecond

theorem isoChars_eq (instant : Instant) :
    instant.isoChars =
      instant.dateChars ++ 'T' :: (instant.timeChars ++
        (instant.fractionChars ++ "+00:00".toList)) := by
  simp only [isoChars, fractionChars, List.append_assoc, List.cons_append]

theorem fractionChars_append_lt (h : instant.microsecond < other.microsecond) :
    instant.fractionChars ++ "+00:00".toList < other.fractionChars ++ "+00:00".toList := by
  have hmicrosecond : other.microsecond < 10 ^ 6 := by
    rw [microsecond]
    omega
  have hother : other.microsecond ≠ 0 := by omega
  rw [fractionChars, fractionChars, if_neg hother]
  split
  · exact .rel (by decide)
  · exact .cons (decimalDigits_append_lt hmicrosecond (.inl h))

/-- Later instants have later timestamps. -/
theorem isoChars_lt (hinstant : instant.InCalendar) (hother : other.InCalendar)
    (h : instant.micros < other.micros) : instant.isoChars < other.isoChars := by
  have hyear := (inCalendar_iff.mp hinstant).1
  rw [isoChars_eq, isoChars_eq]
  rcases lt_or_ge (instant.seconds / 86400) (other.seconds / 86400) with hday | hday
  · exact dateChars_append_lt hyear hother (.inl (Date.ofDayNumber_before (by omega)))
  · -- on the same day the time decides, and in the same second the fraction
    have hseconds : instant.seconds ≤ other.seconds := by
      simp only [seconds]
      omega
    have hdate : instant.date = other.date := by
      rw [date, date, show instant.seconds / 86400 = other.seconds / 86400 by omega]
    refine dateChars_append_lt hyear hother (.inr ⟨hdate, .cons (timeChars_append_lt ?_)⟩)
    rcases hseconds.lt_or_eq with hsecond | hsecond
    · left
      simp only [secondOfDay]
      omega
    · refine .inr ⟨by rw [secondOfDay, secondOfDay, hsecond], fractionChars_append_lt ?_⟩
      simp only [seconds, microsecond] at hsecond ⊢
      omega

/-- Timestamps as texts are in the order of the instants, as far as these lie in the years 1 to
9999. -/
theorem isoText_strictMonoOn :
    StrictMonoOn (fun micros : Int ↦ (Instant.mk micros).isoText)
      {micros | (Instant.mk micros).InCalendar} := by
  intro micros hmicros other hother hless
  rw [String.lt_iff_toList_lt]
  simpa only [isoText, String.toList_ofList] using isoChars_lt hmicros hother hless

end AssistedDialing.Time.Instant
