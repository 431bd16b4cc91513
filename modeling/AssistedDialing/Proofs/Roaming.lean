import AssistedDialing.NumberingPlan.World
import AssistedDialing.Proofs.CountrySources

/-!
# Roaming by the location and by the check

The location of a device says whether it is roaming, from the normalised countries of its SIM and
its network, of which either may be unknown. A check compares two codes in upper case, after it has
found both of them given. When a check takes both codes from the settings, the two agree: the three
preconditions on the codes hold together exactly when the device is roaming (`roaming_found_iff`).
-/

namespace AssistedDialing

open Country (normalize)
open Eligibility (given)
open Text (upper)

namespace Country.Location

theorem isSome_known {code : Option String} :
    (known code).isSome = true ↔ normalize code ≠ "" := by
  unfold known
  split <;> simp_all

/-- A device is roaming when both countries are known and differ in normal form. -/
theorem isRoaming_iff {location : Location} :
    location.isRoaming = true ↔
      normalize location.sim ≠ "" ∧ normalize location.network ≠ "" ∧
        normalize location.sim ≠ normalize location.network := by
  unfold isRoaming home roaming known
  split
  · next home roaming hhome hroaming => split at hhome <;> split at hroaming <;> simp_all
  · next hunknown =>
    by_cases hsim : normalize location.sim = "" <;>
      by_cases hnetwork : normalize location.network = "" <;> simp_all

end Country.Location

namespace Inquiry

variable {inquiry : Inquiry} {plan : NumberingPlan} {settings : Settings}

section Configured

variable (hhome : given inquiry.home = none) (hroaming : given inquiry.roaming = none)

include hhome in
theorem homeCode_configured : inquiry.homeCode settings = normalize settings.simCountry := by
  rw [homeCode_eq, hhome, Option.getD_none]

include hroaming in
theorem roamingCode_configured :
    inquiry.roamingCode settings = normalize settings.networkCountry := by
  rw [roamingCode_eq, hroaming, Option.getD_none]

include hhome in
theorem finding_emptyHomeCode_configured :
    inquiry.finding plan settings .emptyHomeCode =
      .ok (normalize settings.simCountry ≠ "") := by
  rw [← homeCode_configured hhome]
  rfl

include hroaming in
theorem finding_emptyRoamCode_configured :
    inquiry.finding plan settings .emptyRoamCode =
      .ok (normalize settings.networkCountry ≠ "") := by
  rw [← roamingCode_configured hroaming]
  rfl

include hhome hroaming in
theorem finding_notRoaming_configured :
    inquiry.finding plan settings .notRoaming =
      .ok (normalize settings.simCountry ≠ normalize settings.networkCountry) := by
  show Except.ok (decide (upper (inquiry.homeCode settings) ≠
    upper (inquiry.roamingCode settings))) = _
  rw [homeCode_configured hhome, roamingCode_configured hroaming, Country.upper_normalize,
    Country.upper_normalize]

include hhome hroaming in
/-- The preconditions on configured codes hold together when the device is roaming. -/
theorem roaming_found_iff (plan : NumberingPlan) (settings : Settings) :
    inquiry.finding plan settings .emptyHomeCode = .ok true ∧
        inquiry.finding plan settings .emptyRoamCode = .ok true ∧
        inquiry.finding plan settings .notRoaming = .ok true ↔
      settings.location.isRoaming = true := by
  rw [finding_emptyHomeCode_configured hhome, finding_emptyRoamCode_configured hroaming,
    finding_notRoaming_configured hhome hroaming, Country.Location.isRoaming_iff]
  simp only [Except.ok.injEq, decide_eq_true_eq]
  rfl

end Configured

/-- When a check takes both countries from the settings, only a roaming device is offered assisted
dialing, and not roaming is a reason only where both countries are known and the device is not
roaming. A device that is not roaming is refused for that reason or for an earlier one. -/
theorem report_of_roaming (inquiry : Inquiry) (plan : NumberingPlan) (settings : Settings)
    (hhome : given inquiry.home = none) (hroaming : given inquiry.roaming = none) :
    let verdict := (inquiry.report plan settings).verdict
    let location := settings.location
    (verdict.isEligible = true → location.isRoaming = true) ∧
      (verdict = .ineligible .notRoaming →
        location.home.isSome = true ∧ location.roaming.isSome = true ∧
          location.isRoaming = false) ∧
      (location.isRoaming = false →
        ∃ reason, verdict = .ineligible reason ∧
          reason ∈ [.emptyNumber, .emptyHomeCode, .emptyRoamCode, .parseFailure,
            .unsupportedCountry, .notRoaming]) := by
  have hfound := roaming_found_iff hhome hroaming plan settings
  refine ⟨fun heligible ↦ ?_, fun hrefused ↦ ?_, fun hstays ↦ ?_⟩
  · have hall := verdict_eligible_iff.mp ((Verdict.isEligible_iff _).mp heligible)
    exact hfound.mp ⟨hall _, hall _, hall _⟩
  · have hsim : inquiry.finding plan settings .emptyHomeCode = .ok true :=
      passed_of_refused hrefused (by decide)
    have hnetwork : inquiry.finding plan settings .emptyRoamCode = .ok true :=
      passed_of_refused hrefused (by decide)
    have hfails := (verdict_ineligible_iff.mp hrefused).2
    refine ⟨?_, ?_, ?_⟩
    · rw [finding_emptyHomeCode_configured hhome, Except.ok.injEq, decide_eq_true_eq] at hsim
      exact Country.Location.isSome_known.mpr hsim
    · rw [finding_emptyRoamCode_configured hroaming, Except.ok.injEq, decide_eq_true_eq] at hnetwork
      exact Country.Location.isSome_known.mpr hnetwork
    · rw [← Bool.not_eq_true, ← hfound, hfails]
      simp
  · have hnot : ¬ settings.location.isRoaming = true := by simp [hstays]
    cases hverdict : (inquiry.report plan settings).verdict with
    | eligible =>
        have hall := verdict_eligible_iff.mp hverdict
        exact absurd (hfound.mp ⟨hall _, hall _, hall _⟩) hnot
    | ineligible reason =>
        refine ⟨reason, rfl, ?_⟩
        have hfails := (verdict_ineligible_iff.mp hverdict).2
        have hearlier {earlier : Reason} (h : earlier ∈ Reason.all.takeWhile (· ≠ reason)) :
            inquiry.finding plan settings earlier = .ok true := passed_of_refused hverdict h
        cases reason with
        | missingContext | missingCountryTable => cases hfails
        | emptyNumber | emptyHomeCode | emptyRoamCode | parseFailure | unsupportedCountry
        | notRoaming => decide
        | alreadyInternational | emergencyNumber | invalidNumber | hasExtension =>
            -- a later reason is only reached over all three preconditions on the codes
            exact absurd (hfound.mp ⟨hearlier (by decide), hearlier (by decide),
              hearlier (by decide)⟩) hnot

/-- A device whose SIM and network name one country in different ways is not roaming. -/
theorem report_of_one_country :
    let inquiry : Inquiry := ⟨"6502530000", none, some "", none⟩
    let settings : Settings := { simCountry := some "us", networkCountry := some " US" }
    given inquiry.home = none ∧ given inquiry.roaming = none ∧
      settings.location.isRoaming = false ∧
      ∃ reason, (inquiry.report .current settings).verdict = .ineligible reason ∧
        reason ∈ [.emptyNumber, .emptyHomeCode, .emptyRoamCode, .parseFailure,
          .unsupportedCountry, .notRoaming] := by
  intro inquiry settings
  have hstays : settings.location.isRoaming = false := by decide
  have hlaw := report_of_roaming inquiry .current settings rfl rfl
  exact ⟨rfl, rfl, hstays, hlaw.2.2 hstays⟩

end Inquiry

end AssistedDialing
