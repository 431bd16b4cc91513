import AssistedDialing.Proofs.EmergencyCalls
import AssistedDialing.Proofs.UpperCase

/-!
# Given and configured countries

A check takes the home country, the roaming country and the serving network from the options of the
inquiry, or else from the settings. `report_congr` says all that a report depends on: the number,
the two codes and the region in upper case, and the lists of countries and of emergency numbers. So
it makes no difference whether a country is configured or given by its code in any case, and a
country that is given hides the configured one.
-/

namespace AssistedDialing

open Eligibility (given)
open Text (upper)

/-! ## Codes in upper case -/

/-- Upper case does not change a normalised code. -/
theorem Country.upper_normalize (code : Option String) :
    upper (normalize code) = normalize code :=
  Text.upper_upper _

/-- What is known of a region depends on its upper case only. -/
theorem Emergency.knownRegion_congr {region other : String} (h : upper region = upper other) :
    knownRegion (given (some region)) = knownRegion (given (some other)) := by
  by_cases hempty : region = ""
  · rw [hempty, (Text.eq_empty_iff_of_upper_eq h).mp hempty]
  · have hother : other ≠ "" := fun hother ↦ hempty ((Text.eq_empty_iff_of_upper_eq h).mpr hother)
    rw [knownRegion_of_ne hempty, knownRegion_of_ne hother, h]

namespace Eligibility.Checker

variable {ε : Type} {checker : Checker ε} {number home home' roaming roaming' : Option String}

/-- The verdict depends on the upper case of the two codes only. -/
theorem outcome_evaluate_congr (hhome : upper (home.getD "") = upper (home'.getD ""))
    (hroaming : upper (roaming.getD "") = upper (roaming'.getD "")) :
    (checker.evaluate number home roaming).outcome =
      (checker.evaluate number home' roaming').outcome := by
  have hreading : checker.reading number home = checker.reading number home' := by
    rw [reading, reading, hhome]
  have hfinding : checker.finding number home roaming = checker.finding number home' roaming' := by
    funext reason
    cases reason with
    | emptyHomeCode => simp only [finding, ne_eq, Text.eq_empty_iff_of_upper_eq hhome]
    | emptyRoamCode => simp only [finding, ne_eq, Text.eq_empty_iff_of_upper_eq hroaming]
    | _ => simp only [finding, hreading, hhome, hroaming]
  rw [evaluate_searches.1, evaluate_searches.1, hfinding]

end Eligibility.Checker

namespace Inquiry

/-- Reports agree when their inquiries are about the same number, name the same countries and
network in upper case, and are checked under the same lists. -/
theorem report_congr (inquiry other : Inquiry) (plan : NumberingPlan)
    (settings settings' : Settings) (hnumber : inquiry.number = other.number)
    (hhome : upper (inquiry.homeCode settings) = upper (other.homeCode settings'))
    (hroaming : upper (inquiry.roamingCode settings) = upper (other.roamingCode settings'))
    (hserving : upper (inquiry.servingRegion settings) = upper (other.servingRegion settings'))
    (hcountries : settings.supportedCountries = settings'.supportedCountries)
    (hnumbers : settings.extraEmergencyNumbers = settings'.extraEmergencyNumbers) :
    inquiry.report plan settings = other.report plan settings' := by
  have hclassifier :
      settings.emergencyClassifier (given (some (inquiry.homeCode settings)))
          (inquiry.networkRegion settings) =
        settings'.emergencyClassifier (given (some (other.homeCode settings')))
          (other.networkRegion settings') := by
    rw [networkRegion_eq, networkRegion_eq, Settings.emergencyClassifier,
      Settings.emergencyClassifier, Emergency.Classifier.ofRegions,
      Emergency.Classifier.ofRegions, Emergency.knownRegion_congr hhome,
      Emergency.knownRegion_congr hserving, hnumbers]
  have hchecker : inquiry.checker plan settings = other.checker plan settings' := by
    rw [checker, checker, Settings.checker, Settings.checker, hclassifier, Settings.countryTable,
      Settings.countryTable, Settings.countryList, Settings.countryList, hcountries]
  have hverdict : (inquiry.report plan settings).verdict =
      (other.report plan settings').verdict := by
    have houtcome : (inquiry.run plan settings).outcome = (other.run plan settings').outcome := by
      show ((inquiry.checker plan settings).evaluate _ _ _).outcome = _
      rw [hchecker, hnumber]
      exact Eligibility.Checker.outcome_evaluate_congr hhome hroaming
    rw [verdict_report_iff, houtcome, ← verdict_report_iff]
  show Report.mk inquiry.number (upper (inquiry.homeCode settings))
    (upper (inquiry.roamingCode settings)) (inquiry.report plan settings).verdict = _
  rw [hnumber, hhome, hroaming, hverdict]
  rfl

/-- The serving region is that of the network, and the roaming country only where no network is
known. -/
theorem servingRegion_congr {inquiry other : Inquiry} {settings settings' : Settings}
    (hnetwork : inquiry.network = other.network)
    (hconfigured :
      Country.normalize settings.networkCountry = Country.normalize settings'.networkCountry)
    (hroaming : upper (inquiry.roamingCode settings) = upper (other.roamingCode settings')) :
    upper (inquiry.servingRegion settings) = upper (other.servingRegion settings') := by
  rw [servingRegion, servingRegion, hnetwork, hconfigured]
  cases given other.network with
  | some network => rw [Option.getD_some, Option.getD_some]
  | none =>
      rw [Option.getD_none, Option.getD_none]
      split
      · exact hroaming
      · rfl

/-- `Restates option code` says that an option leaves a country to the settings, or gives the code
`code` of the settings in any case. -/
def Restates (option code : Option String) : Prop :=
  given option = none ∨ code = some (upper (option.getD ""))

/-- Checking a restated code is checking the configured one. -/
theorem Restates.upper_getD {option code : Option String}
    (h : Restates option (Country.Location.known code)) :
    upper ((given option).getD (Country.normalize code)) = Country.normalize code := by
  cases hgiven : given option with
  | none => rw [Option.getD_none, Country.upper_normalize]
  | some text =>
      have hcode : Country.Location.known code = some (upper (option.getD "")) :=
        h.resolve_left (by rw [hgiven]; exact Option.some_ne_none _)
      have htext : given option = some (option.getD "") := by
        apply Eligibility.given_of_ne
        intro hempty
        rw [Eligibility.given_eq_none_iff.mpr hempty] at hgiven
        cases hgiven
      have hsame : text = option.getD "" := Option.some.inj (hgiven.symm.trans htext)
      rw [Option.getD_some, hsame, ← Country.Location.known_getD, hcode, Option.getD_some]

/-- Configured countries may as well be given as options, by their codes in any case. -/
theorem report_restated (inquiry : Inquiry) (plan : NumberingPlan) (settings : Settings)
    {home roaming : Option String} (hhome : Restates home settings.location.home)
    (hroaming : Restates roaming settings.location.roaming) :
    { inquiry with home, roaming }.report plan settings =
      { inquiry with home := none, roaming := none }.report plan settings := by
  have hhomeCode : upper ({ inquiry with home, roaming }.homeCode settings) =
      upper ({ inquiry with home := none, roaming := none }.homeCode settings) := by
    rw [homeCode_eq, homeCode_eq]
    exact hhome.upper_getD.trans (Country.upper_normalize _).symm
  have hroamingCode : upper ({ inquiry with home, roaming }.roamingCode settings) =
      upper ({ inquiry with home := none, roaming := none }.roamingCode settings) := by
    rw [roamingCode_eq, roamingCode_eq]
    exact hroaming.upper_getD.trans (Country.upper_normalize _).symm
  exact report_congr _ _ plan settings settings rfl hhomeCode hroamingCode
    (servingRegion_congr rfl rfl hroamingCode) rfl rfl

/-- A given country hides the configured one, and the roaming country stands for the network only
where no country of the network is configured. -/
theorem report_given (inquiry : Inquiry) (plan : NumberingPlan) (settings : Settings)
    {simCountry networkCountry : Option String} (hhome : given inquiry.home ≠ none)
    (hroaming : given inquiry.roaming ≠ none)
    (hnetwork : given inquiry.network ≠ none ∨
      Country.normalize networkCountry = Country.normalize settings.networkCountry) :
    inquiry.report plan { settings with simCountry, networkCountry } =
      inquiry.report plan settings := by
  obtain ⟨home, hhome⟩ := Option.ne_none_iff_exists'.mp hhome
  obtain ⟨roaming, hroaming⟩ := Option.ne_none_iff_exists'.mp hroaming
  have hhomeCode : inquiry.homeCode { settings with simCountry, networkCountry } =
      inquiry.homeCode settings := by
    rw [homeCode_eq, homeCode_eq, hhome, Option.getD_some, Option.getD_some]
  have hroamingCode : inquiry.roamingCode { settings with simCountry, networkCountry } =
      inquiry.roamingCode settings := by
    rw [roamingCode_eq, roamingCode_eq, hroaming, Option.getD_some, Option.getD_some]
  have hserving : upper (inquiry.servingRegion { settings with simCountry, networkCountry }) =
      upper (inquiry.servingRegion settings) := by
    obtain hnetwork | hsame := hnetwork
    · obtain ⟨network, hnetwork⟩ := Option.ne_none_iff_exists'.mp hnetwork
      rw [servingRegion, servingRegion, hnetwork, Option.getD_some, Option.getD_some]
    · exact servingRegion_congr rfl hsame (congrArg upper hroamingCode)
  exact report_congr inquiry inquiry plan _ settings rfl (congrArg upper hhomeCode)
    (congrArg upper hroamingCode) hserving rfl rfl

/-- Configured countries and options are interchangeable: an option that restates a configured code
may as well be left out, and one that leaves an unknown country open changes nothing either. Given
options win: when home, roaming and network are given, the configured countries do not count at
all, and when home and roaming are given, only the normalised country of the network does. -/
theorem report_of_sources (inquiry : Inquiry) (plan : NumberingPlan) (settings : Settings) :
    (∀ home roaming, Restates home settings.location.home →
      Restates roaming settings.location.roaming →
      { inquiry with home, roaming }.report plan settings =
        { inquiry with home := none, roaming := none }.report plan settings) ∧
    (given inquiry.home ≠ none → given inquiry.roaming ≠ none →
      ∀ simCountry networkCountry,
        (given inquiry.network ≠ none ∨
          Country.normalize networkCountry = Country.normalize settings.networkCountry) →
        inquiry.report plan { settings with simCountry, networkCountry } =
          inquiry.report plan settings) :=
  ⟨fun _ _ hhome hroaming ↦ inquiry.report_restated plan settings hhome hroaming,
    fun hhome hroaming _ _ hnetwork ↦ inquiry.report_given plan settings hhome hroaming hnetwork⟩

end Inquiry

end AssistedDialing
