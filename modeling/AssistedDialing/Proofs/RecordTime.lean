import AssistedDialing.Time.Instant

/-!
# Times that can be written

A number of seconds means an instant, to the nearest microsecond (`nearest?`). It is accepted as a
time exactly when the instant lies in the years 1 to 9999: the two bounds on the size of numbers,
which are checked first, refuse nothing more (`ofValue_eq_ok_iff`).
-/

namespace AssistedDialing.Time.Instant

/-- `nearest? value` is the instant that a finite number of seconds since the beginning of 1970
means. -/
def nearest? : Value → Option Instant
  | .int n => some ⟨n * 1000000⟩
  | .bool b => some ⟨(if b then 1 else 0) * 1000000⟩
  | .float x => x.truncate?.map fun whole ↦ ⟨microsOfFloat whole x⟩
  | _ => none

variable {value : Value} {instant : Instant}

/-- The years 1 to 9999 have few seconds. -/
theorem seconds_bounds (hfirst : 1 ≤ instant.date.year) (hlast : instant.date.year ≤ 9999) :
    -100000000000 ≤ instant.seconds ∧ instant.seconds ≤ 1000000000000 := by
  have hyear : instant.date.year = (yearDay (epochDay + instant.seconds / 86400)).year := rfl
  rw [hyear] at hfirst hlast
  simp only [yearDay, epochDay] at hfirst hlast
  omega

theorem checked_eq_ok_iff {found : Instant} :
    checked found = .ok instant ↔
      found = instant ∧ 1 ≤ instant.date.year ∧ instant.date.year ≤ 9999 := by
  constructor
  · intro h
    simp only [checked] at h
    split at h
    · cases h
    split at h
    · cases h
    split at h
    · cases h
    · next hyear =>
      cases h
      simp only [Bool.or_eq_true, decide_eq_true_eq] at hyear
      exact ⟨rfl, by omega, by omega⟩
  · rintro ⟨rfl, hfirst, hlast⟩
    obtain ⟨hlower, hupper⟩ := seconds_bounds hfirst hlast
    have hseconds : fitsIn 64 found.seconds = true := by
      have hbound : Nat.pow 2 (64 - 1) = 9223372036854775808 := rfl
      simp only [fitsIn, hbound, decide_eq_true_eq]
      omega
    have hyear : fitsIn 32 (found.date.year - 1900) = true := by
      have hbound : Nat.pow 2 (32 - 1) = 2147483648 := rfl
      simp only [fitsIn, hbound, decide_eq_true_eq]
      omega
    have hrange : (decide (found.date.year < 1) || decide (9999 < found.date.year)) = false := by
      simp only [Bool.or_eq_false_iff, decide_eq_false_iff_not]
      omega
    simp [checked, hseconds, hyear, hrange]

/-- A value is a time exactly when it means an instant in the years 1 to 9999. -/
theorem ofValue_eq_ok_iff :
    ofValue value = .ok instant ↔
      nearest? value = some instant ∧ 1 ≤ instant.date.year ∧ instant.date.year ≤ 9999 := by
  cases value with
  | int n => simp [ofValue, ofInt, nearest?, checked_eq_ok_iff]
  | bool b => simp [ofValue, ofInt, nearest?, checked_eq_ok_iff]
  | float x =>
      cases hwhole : x.truncate? with
      | some whole =>
          have hvalue : ofValue (.float x) = checked ⟨microsOfFloat whole x⟩ := by
            cases x with
            | nan => cases hwhole
            | _ => simp [ofValue, hwhole]
          simp [hvalue, nearest?, hwhole, checked_eq_ok_iff]
      | none =>
          have hvalue : ∃ error, ofValue (.float x) = .error error := by
            cases x with
            | nan => exact ⟨_, rfl⟩
            | _ => simp [ofValue, hwhole]
          obtain ⟨error, herror⟩ := hvalue
          simp [herror, nearest?, hwhole]
  | _ => simp [ofValue, nearest?]

end AssistedDialing.Time.Instant
