import AssistedDialing.Proofs.CountryTable
import AssistedDialing.Proofs.Preconditions

/-!
# When two codes name one country

The table of supported countries compares codes in upper case without the blanks around them, and
the comparison of home and roaming country compares codes in upper case only. `upper_eq_iff` says
how the two differ: codes agree in upper case when they agree in normal form and stand between the
same blanks. So a number can be offered assisted dialing although both codes name one country, and
this happens exactly when different blanks surround them.
-/

namespace AssistedDialing

namespace Country

open Text

/-- Support does not depend on the case of a code. -/
theorem Table.isSupported_upper (table : Table) (code : Option String) :
    table.isSupported (some (upper (code.getD ""))) = table.isSupported code := by
  rw [isSupported, normalize_upper, isSupported]

theorem Table.mem_codes_of_isSupported {table : Table} {code : Option String}
    (h : table.isSupported code = true) : normalize code ∈ table.codes := by
  simp only [isSupported, Bool.and_eq_true, List.contains_eq_mem, decide_eq_true_eq] at h
  exact h.2

/-- Two codes agree in upper case exactly when they agree in normal form and have the same blanks
around them. -/
theorem upper_eq_iff {left right : String} :
    upper left = upper right ↔
      normalizeText left = normalizeText right ∧
        padding left.toList = padding right.toList := by
  constructor
  · intro h
    constructor
    · rw [← normalizeText_upper left, h, normalizeText_upper]
    · have hchars : upperChars left.toList = upperChars right.toList := by
        rw [← toList_upper, ← toList_upper, h]
      rw [← padding_upperChars, hchars, padding_upperChars]
  · rintro ⟨hnormal, hpadding⟩
    have hchars : upperChars (trim left.toList) = upperChars (trim right.toList) := by
      have hlists := congrArg String.toList hnormal
      rwa [toList_normalizeText, toList_normalizeText, normalizeChars, normalizeChars] at hlists
    apply String.ext
    rw [toList_upper, toList_upper, upperChars_eq_padding, hchars, hpadding,
      ← upperChars_eq_padding]

end Country

namespace Eligibility

open Text (upper padding)
open Country (normalize)

variable {ε : Type}

namespace Checker

/-- Both codes of an eligible number are supported, and they differ in upper case. -/
theorem supported_of_eligible {checker : Checker ε} {table : Country.Table}
    {number home roaming : Option String} (htable : checker.table = some table)
    (h : (checker.evaluate number home roaming).outcome = .ok .eligible) :
    table.isSupported home = true ∧ table.isSupported roaming = true ∧
      upper (home.getD "") ≠ upper (roaming.getD "") := by
  rw [evaluate_eligible_iff] at h
  have hsupported := h .unsupportedCountry
  have hroaming := h .notRoaming
  simp only [finding, htable, Option.any_some, Except.ok.injEq, Bool.and_eq_true,
    Country.Table.isSupported_upper] at hsupported
  simp only [finding, Except.ok.injEq, decide_eq_true_eq] at hroaming
  exact ⟨hsupported.1, hsupported.2, hroaming⟩

/-- A checker whose collaborators object to nothing but the countries. -/
def lenient (table : Country.Table) : Checker Empty where
  parser := some fun raw _ ↦ .ok (.ok (.ofPhoneNumber raw
    { callingCode := none, nationalNumber := none, extension := none, source := none }))
  table := some table
  emergency := some { isEmergency := fun _ ↦ .ok false, isLocalEmergency := fun _ ↦ .ok false }
  validator := fun _ ↦ .ok true

/-- Supported codes that differ in upper case are enough for a lenient checker. -/
theorem lenient_eligible {table : Country.Table} {home roaming : Option String}
    (hhome : table.isSupported home = true) (hroaming : table.isSupported roaming = true)
    (hne : upper (home.getD "") ≠ upper (roaming.getD "")) :
    ((lenient table).evaluate (some "1") home roaming).outcome = .ok .eligible := by
  rw [evaluate_eligible_iff]
  intro reason
  cases reason <;>
    simp [finding, lenient, reading, Except.map, Except.bind, Except.toOption,
      EmergencyService.anyEmergency, ParsedNumber.ofPhoneNumber, Country.Table.isSupported_upper,
      Country.Table.ne_empty_of_isSupported hhome, Country.Table.ne_empty_of_isSupported hroaming,
      hhome, hroaming, hne]

end Checker

/-- The codes of an eligible number name supported countries, and these are two countries unless
different blanks surround the codes. A number is offered assisted dialing within one country by some
checker exactly when that country is supported and its two codes have different blanks around them.
-/
theorem eligible_within_country_iff (table : Country.Table) (home roaming : Option String) :
    (∀ (ε : Type) (checker : Checker ε) (number : Option String), checker.table = some table →
      (checker.evaluate number home roaming).outcome = .ok .eligible →
        normalize home ∈ table.codes ∧ normalize roaming ∈ table.codes ∧
          (normalize home ≠ normalize roaming ∨
            padding (home.getD "").toList ≠ padding (roaming.getD "").toList)) ∧
      ((∃ (ε : Type) (checker : Checker ε) (number : Option String),
        checker.table = some table ∧
          (checker.evaluate number home roaming).outcome = .ok .eligible ∧
          ¬ (normalize home ∈ table.codes ∧ normalize roaming ∈ table.codes ∧
            normalize home ≠ normalize roaming)) ↔
        table.isSupported home = true ∧ normalize home = normalize roaming ∧
          padding (home.getD "").toList ≠ padding (roaming.getD "").toList) := by
  have hcodes : upper (home.getD "") = upper (roaming.getD "") ↔
      normalize home = normalize roaming ∧
        padding (home.getD "").toList = padding (roaming.getD "").toList := Country.upper_eq_iff
  constructor
  · intro ε checker number htable h
    obtain ⟨hhome, hroaming, hne⟩ := Checker.supported_of_eligible htable h
    refine ⟨Country.Table.mem_codes_of_isSupported hhome,
      Country.Table.mem_codes_of_isSupported hroaming, ?_⟩
    rw [ne_eq, hcodes] at hne
    exact Decidable.not_and_iff_or_not.mp hne
  constructor
  · rintro ⟨ε, checker, number, htable, h, hlaw⟩
    obtain ⟨hhome, hroaming, hne⟩ := Checker.supported_of_eligible htable h
    -- both codes are supported, so what breaks the law can only be that they name one country
    have hsame : normalize home = normalize roaming := by
      apply Decidable.byContradiction
      intro hdiffer
      exact hlaw ⟨Country.Table.mem_codes_of_isSupported hhome,
        Country.Table.mem_codes_of_isSupported hroaming, hdiffer⟩
    refine ⟨hhome, hsame, ?_⟩
    intro hpadding
    exact hne (hcodes.mpr ⟨hsame, hpadding⟩)
  · rintro ⟨hhome, hsame, hpadding⟩
    have hroaming : table.isSupported roaming = true := by
      rw [Country.Table.isSupported, ← hsame]
      exact hhome
    have hne : upper (home.getD "") ≠ upper (roaming.getD "") := by
      intro hequal
      exact hpadding (hcodes.mp hequal).2
    refine ⟨Empty, Checker.lenient table, some "1", rfl,
      Checker.lenient_eligible hhome hroaming hne, ?_⟩
    rintro ⟨_, _, hdiffer⟩
    exact hdiffer hsame

end Eligibility

end AssistedDialing
