import AssistedDialing.Proofs.Preconditions
import AssistedDialing.Report

/-!
# Emergency calls are never offered assisted dialing

`Inquiry.IsEmergency` says which inquiries are about an emergency number, from the options and the
settings alone. The precondition against emergency numbers finds exactly these
(`finding_emergencyNumber`), and no later reason hides it, since a check reaches a later reason only
over a number that is no emergency number.
-/

namespace AssistedDialing

open Eligibility (given)
open Emergency (stripSeparators)
open Country (normalize)
open Text (upper)

namespace Emergency

theorem mem_operatorNumbers {number : String} {extra : List String} :
    number ∈ operatorNumbers extra ↔
      number ≠ "" ∧ ∃ item ∈ extra, stripSeparators item = number := by
  simp only [operatorNumbers, List.mem_filter, List.mem_map, decide_eq_true_eq]
  exact and_comm

theorem knownRegion_of_ne {region : String} (h : region ≠ "") :
    knownRegion (given (some region)) = some (upper region) := by
  simp [given, knownRegion]

namespace Classifier

variable {plan : NumberingPlan} {extra : List String} {raw : String} {sim network : Option String}

/-- The emergency numbers of a classifier are the global ones, those of the list, and those of its
two regions. -/
theorem isAnyEmergency_ofRegions_iff :
    (ofRegions sim network extra).isAnyEmergency plan raw = true ↔
      stripSeparators raw ∈ globalNumbers ∨
        (stripSeparators raw ≠ "" ∧ ∃ item ∈ extra, stripSeparators item = stripSeparators raw) ∨
        inRegion plan raw (knownRegion sim) = true ∨
        inRegion plan raw (knownRegion network) = true := by
  simp only [isAnyEmergency, isEmergency, isLocalEmergency, ofRegions, Bool.or_eq_true,
    List.contains_eq_mem, decide_eq_true_eq, List.mem_append, mem_operatorNumbers, or_assoc]

end Classifier

end Emergency

namespace Eligibility

theorem Run.outcome_eq_value {α : Type} (run : Run Empty α) : run.outcome = .ok run.value := by
  unfold value
  split
  · assumption

end Eligibility

namespace Country.Location

theorem known_getD (code : Option String) : (known code).getD "" = normalize code := by
  unfold known
  split <;> simp_all

end Country.Location

namespace Inquiry

variable {inquiry : Inquiry} {plan : NumberingPlan} {settings : Settings}

theorem homeCode_eq :
    inquiry.homeCode settings = (given inquiry.home).getD (normalize settings.simCountry) := by
  rw [homeCode, Settings.location, Country.Location.home]
  cases given inquiry.home with
  | some home => rw [Option.some_or, Option.getD_some, Option.getD_some]
  | none => rw [Option.none_or, Country.Location.known_getD, Option.getD_none]

theorem roamingCode_eq :
    inquiry.roamingCode settings =
      (given inquiry.roaming).getD (normalize settings.networkCountry) := by
  rw [roamingCode, Settings.location, Country.Location.roaming]
  cases given inquiry.roaming with
  | some roaming => rw [Option.some_or, Option.getD_some, Option.getD_some]
  | none => rw [Option.none_or, Country.Location.known_getD, Option.getD_none]

/-- `inquiry.servingRegion settings` is the given network, or else the serving network of the
settings, or else the roaming country. It is empty when all are unknown. -/
def servingRegion (inquiry : Inquiry) (settings : Settings) : String :=
  (given inquiry.network).getD
    (if normalize settings.networkCountry = "" then inquiry.roamingCode settings
    else normalize settings.networkCountry)

theorem networkRegion_eq :
    inquiry.networkRegion settings = given (some (inquiry.servingRegion settings)) := by
  rw [networkRegion, servingRegion, Settings.location, Country.Location.roaming,
    Country.Location.known]
  cases hnetwork : given inquiry.network with
  | some network =>
      have hgiven : given (some network) = some network :=
        Eligibility.given_of_ne (Eligibility.ne_empty_of_given hnetwork)
      simp only [Option.some_or, Option.getD_some]
      exact hgiven.symm
  | none =>
      simp only [Option.none_or, Option.getD_none]
      split
      · rw [Option.none_or]
      · next hknown =>
          have hgiven : given (some (normalize settings.networkCountry)) =
              some (normalize settings.networkCountry) := Eligibility.given_of_ne hknown
          exact hgiven.symm

/-- The collaborators with which an inquiry is checked. -/
def checker (inquiry : Inquiry) (plan : NumberingPlan) (settings : Settings) :
    Eligibility.Checker Empty :=
  settings.checker plan (given (some (inquiry.homeCode settings)))
    (inquiry.networkRegion settings)

/-- `inquiry.finding plan settings reason` is whether the precondition under `reason` holds. -/
def finding (inquiry : Inquiry) (plan : NumberingPlan) (settings : Settings) :
    Reason → Except Empty Bool :=
  (inquiry.checker plan settings).finding (some inquiry.number)
    (some (inquiry.homeCode settings)) (some (inquiry.roamingCode settings))

/-- The report refuses a number for a reason exactly when the check does. -/
theorem verdict_report_iff {verdict : Verdict} :
    (inquiry.report plan settings).verdict = verdict ↔
      (inquiry.run plan settings).outcome = .ok verdict := by
  rw [Eligibility.Run.outcome_eq_value, Except.ok.injEq]
  rfl

/-- `inquiry.IsEmergency plan settings` says that the number without separators is 112, 911 or one
of the configured numbers without separators, or that it is an emergency number of the home country
or of the serving region. The options come before the settings. -/
def IsEmergency (inquiry : Inquiry) (plan : NumberingPlan) (settings : Settings) : Prop :=
  let dialled := stripSeparators inquiry.number
  let home := (given inquiry.home).getD (normalize settings.simCountry)
  let roaming := (given inquiry.roaming).getD (normalize settings.networkCountry)
  let serving := (given inquiry.network).getD
    (if normalize settings.networkCountry = "" then roaming
    else normalize settings.networkCountry)
  dialled ∈ ["112", "911"] ∨
    (dialled ≠ "" ∧ ∃ item ∈ settings.extraEmergencyNumbers.items EmergencyItem.display,
      stripSeparators item = dialled) ∨
    plan.isEmergencyText inquiry.number (upper home) = true ∨
    plan.isEmergencyText inquiry.number (upper serving) = true

/-- The precondition against emergency numbers asks the classifier of the home country and the
serving region. -/
theorem finding_emergencyNumber_eq :
    inquiry.finding plan settings .emergencyNumber =
      .ok !(settings.emergencyClassifier (given (some (inquiry.homeCode settings)))
        (inquiry.networkRegion settings)).isAnyEmergency plan inquiry.number := by
  simp [finding, checker, Eligibility.Checker.finding, Settings.checker,
    Eligibility.anyEmergency_classifierService, Except.map]

/-- Between known countries, the precondition against emergency numbers finds them all. -/
theorem finding_emergencyNumber (hhome : inquiry.homeCode settings ≠ "")
    (hserving : inquiry.servingRegion settings ≠ "") :
    inquiry.finding plan settings .emergencyNumber = .ok false ↔
      inquiry.IsEmergency plan settings := by
  rw [finding_emergencyNumber_eq, Except.ok.injEq, Bool.not_eq_false',
    Settings.emergencyClassifier, Emergency.Classifier.isAnyEmergency_ofRegions_iff,
    networkRegion_eq,
    Emergency.knownRegion_of_ne hhome, Emergency.knownRegion_of_ne hserving]
  rw [homeCode_eq, servingRegion, roamingCode_eq]
  rfl

/-- Without a serving region, no roaming country is known either. -/
theorem roamingCode_eq_empty (h : inquiry.servingRegion settings = "") :
    inquiry.roamingCode settings = "" := by
  unfold servingRegion at h
  cases hnetwork : given inquiry.network with
  | some network =>
      rw [hnetwork, Option.getD_some] at h
      exact absurd h (Eligibility.ne_empty_of_given hnetwork)
  | none =>
      rw [hnetwork, Option.getD_none] at h
      split at h
      · exact h
      · next hknown => exact absurd h hknown

/-- Where both codes are given, the home country and the serving region are known. -/
theorem known_of_given (hhome : inquiry.finding plan settings .emptyHomeCode = .ok true)
    (hroaming : inquiry.finding plan settings .emptyRoamCode = .ok true) :
    inquiry.homeCode settings ≠ "" ∧ inquiry.servingRegion settings ≠ "" := by
  constructor
  · simpa [finding, Eligibility.Checker.finding] using hhome
  · intro hnone
    simp [finding, Eligibility.Checker.finding, roamingCode_eq_empty hnone] at hroaming

theorem verdict_eligible_iff :
    (inquiry.report plan settings).verdict = .eligible ↔
      ∀ reason, inquiry.finding plan settings reason = .ok true := by
  rw [verdict_report_iff]
  exact Eligibility.Checker.evaluate_eligible_iff

theorem verdict_ineligible_iff {reason : Reason} :
    (inquiry.report plan settings).verdict = .ineligible reason ↔
      Eligibility.reaches (inquiry.finding plan settings) Reason.all reason = true ∧
        inquiry.finding plan settings reason = .ok false := by
  rw [verdict_report_iff]
  exact Eligibility.Checker.evaluate_ineligible_iff

/-- The preconditions before the reason of a refusal hold. -/
theorem passed_of_refused {reason earlier : Reason}
    (h : (inquiry.report plan settings).verdict = .ineligible reason)
    (hearlier : earlier ∈ Reason.all.takeWhile (· ≠ reason)) :
    inquiry.finding plan settings earlier = .ok true := by
  have hreach := (verdict_ineligible_iff.mp h).1
  rw [Eligibility.reaches, List.all_eq_true] at hreach
  exact Eligibility.isMet_iff.mp (hreach earlier hearlier)

/-- Where both codes are given, an emergency number does not pass its precondition. -/
theorem not_emergency_of_passed
    (hhome : inquiry.finding plan settings .emptyHomeCode = .ok true)
    (hroaming : inquiry.finding plan settings .emptyRoamCode = .ok true)
    (hpassed : inquiry.finding plan settings .emergencyNumber = .ok true) :
    ¬ inquiry.IsEmergency plan settings := by
  intro hemergency
  obtain ⟨hknown, hserving⟩ := known_of_given hhome hroaming
  have hrefused := (finding_emergencyNumber hknown hserving).mpr hemergency
  rw [hrefused] at hpassed
  cases hpassed

/-- The reason against an emergency number is that it is one, or an earlier reason. -/
theorem report_of_isEmergency (hemergency : inquiry.IsEmergency plan settings) :
    ∃ reason, (inquiry.report plan settings).verdict = .ineligible reason ∧
      Reason.emergencyNumber ∉ Reason.all.takeWhile (· ≠ reason) := by
  cases hverdict : (inquiry.report plan settings).verdict with
  | eligible =>
      have hall := verdict_eligible_iff.mp hverdict
      exact absurd hemergency (not_emergency_of_passed (hall _) (hall _) (hall _))
  | ineligible reason =>
      refine ⟨reason, rfl, ?_⟩
      intro hlate
      -- a reason behind that of emergency numbers is also behind those of missing codes
      have hhome : Reason.emptyHomeCode ∈ Reason.all.takeWhile (· ≠ reason) := by
        cases reason <;> revert hlate <;> decide
      have hroaming : Reason.emptyRoamCode ∈ Reason.all.takeWhile (· ≠ reason) := by
        cases reason <;> revert hlate <;> decide
      exact not_emergency_of_passed (passed_of_refused hverdict hhome)
        (passed_of_refused hverdict hroaming) (passed_of_refused hverdict hlate) hemergency

/-- Only an emergency number is refused for being one. -/
theorem isEmergency_of_refused
    (h : (inquiry.report plan settings).verdict = .ineligible .emergencyNumber) :
    inquiry.IsEmergency plan settings := by
  obtain ⟨hhome, hserving⟩ := known_of_given (passed_of_refused h (by decide))
    (passed_of_refused h (by decide))
  exact (finding_emergencyNumber hhome hserving).mp (verdict_ineligible_iff.mp h).2

/-- The verdict on an emergency number is a refusal, for that reason or an earlier one, and only an
emergency number is refused for that reason. -/
theorem report_emergency (plan : NumberingPlan) (settings : Settings) (inquiry : Inquiry) :
    let verdict := (inquiry.report plan settings).verdict
    (inquiry.IsEmergency plan settings →
      verdict.isEligible = false ∧
        ∃ reason, verdict = .ineligible reason ∧
          reason ∈ Reason.all.takeWhile (· ≠ .emergencyNumber) ++ [.emergencyNumber] ∧
          reason ≠ .invalidNumber ∧ reason ≠ .hasExtension) ∧
      (verdict = .ineligible .emergencyNumber → inquiry.IsEmergency plan settings) := by
  constructor
  · intro hemergency
    obtain ⟨reason, hverdict, hearly⟩ := report_of_isEmergency hemergency
    rw [hverdict]
    refine ⟨rfl, reason, rfl, ?_, ?_, ?_⟩
    · cases reason <;> revert hearly <;> decide
    · rintro rfl
      exact hearly (by decide)
    · rintro rfl
      exact hearly (by decide)
  · exact isEmergency_of_refused

end Inquiry

end AssistedDialing
