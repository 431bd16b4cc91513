import AssistedDialing.NumberingPlan.World
import AssistedDialing.Proofs.Layout
import AssistedDialing.Proofs.Preconditions

/-!
# The verdict on a layout

The raw text of a number reaches a check on three ways: through the parser, through the emergency
numbers of the regions, and through the list of further emergency numbers. On all three a layout
counts by its digits alone, so every precondition answers alike for two layouts of one number
(`finding_eq_of_layouts`), and so does the check.
-/

namespace AssistedDialing

open Dialled (Layout readDigits mostCharacters)

variable {digits : List Char}

namespace Emergency.Classifier

/-- A layout is an emergency number by its digits: as one of the numbers, or in a region. -/
theorem isAnyEmergency_of_layout {raw : String} (h : Layout digits raw.toList)
    (plan : NumberingPlan) (classifier : Classifier) :
    classifier.isAnyEmergency plan raw =
      (classifier.numbers.contains (String.ofList digits) ||
        classifier.simRegion.any (plan.isEmergency · digits) ||
        classifier.networkRegion.any (plan.isEmergency · digits)) := by
  have hregion (region : Option String) :
      inRegion plan raw region = region.any (plan.isEmergency · digits) := by
    cases region with
    | none => rfl
    | some region => exact h.isEmergencyText_eq plan region
  rw [isAnyEmergency, isEmergency, isLocalEmergency, h.stripSeparators_eq, hregion, hregion]

end Emergency.Classifier

namespace Eligibility

open Text (upper)

variable {ε : Type}

/-- `planChecker plan table classifier` asks a numbering plan, a table of countries, if there is
one, and a classifier of emergency numbers. -/
def planChecker (plan : NumberingPlan) (table : Option Country.Table)
    (classifier : Emergency.Classifier) : Checker ε where
  parser := some (planParser plan)
  table := table
  emergency := some (classifierService plan classifier)
  validator := planValidator plan

/-- `homeRegion? plan code` is the region of a plan that a parser takes for the country `code`. -/
def homeRegion? (plan : NumberingPlan) (code : String) : Option Region :=
  (if code = "" then none else some (upper code)).bind plan.region?

namespace Checker

variable {plan : NumberingPlan} {table : Option Country.Table} {classifier : Emergency.Classifier}
  {home roaming : Option String} {raw first second : String}

/-- What the parser reads of a layout is decided by its digits, but for the text itself. -/
theorem reading_of_layout (h : Layout digits raw.toList) (hlong : 3 ≤ digits.length)
    (hshort : raw.toList.length ≤ mostCharacters) :
    (planChecker plan table classifier : Checker ε).reading (some raw) home =
      .ok ((readDigits plan (homeRegion? plan (upper (home.getD ""))) digits).toOption.map
        (.ofPhoneNumber raw)) := by
  have hparse (code : String) : (parseNumber plan raw code).toOption =
      (readDigits plan (homeRegion? plan code) digits).toOption.map (.ofPhoneNumber raw) := by
    rw [parseNumber, h.read_eq hlong hshort, ← homeRegion?]
    cases readDigits plan (homeRegion? plan code) digits <;> rfl
  rw [← hparse]
  rfl

/-- Every precondition answers alike for two layouts of one number. -/
theorem finding_eq_of_layouts (hfirst : Layout digits first.toList)
    (hsecond : Layout digits second.toList) (hlong : 3 ≤ digits.length)
    (hfirstShort : first.toList.length ≤ mostCharacters)
    (hsecondShort : second.toList.length ≤ mostCharacters) (reason : Reason) :
    (planChecker plan table classifier : Checker ε).finding (some first) home roaming reason =
      (planChecker plan table classifier : Checker ε).finding (some second) home roaming
        reason := by
  obtain ⟨phone?, hfirstReading, hsecondReading⟩ : ∃ phone? : Option PhoneNumber,
      (planChecker plan table classifier : Checker ε).reading (some first) home =
          .ok (phone?.map (.ofPhoneNumber first)) ∧
        (planChecker plan table classifier : Checker ε).reading (some second) home =
          .ok (phone?.map (.ofPhoneNumber second)) :=
    ⟨_, reading_of_layout hfirst hlong hfirstShort, reading_of_layout hsecond hlong hsecondShort⟩
  have hemergency :
      classifier.isAnyEmergency plan first = classifier.isAnyEmergency plan second := by
    rw [Emergency.Classifier.isAnyEmergency_of_layout hfirst,
      Emergency.Classifier.isAnyEmergency_of_layout hsecond]
  cases reason with
  | missingContext | missingCountryTable | emptyHomeCode | emptyRoamCode | unsupportedCountry
  | notRoaming => rfl
  | emptyNumber =>
      simp [finding, hfirst.ne_empty hlong, hsecond.ne_empty hlong]
  | emergencyNumber =>
      simp [finding, planChecker, anyEmergency_classifierService, hemergency]
  | parseFailure | alreadyInternational | invalidNumber | hasExtension =>
      -- the two readings differ in their raw text only, which these preconditions do not look at
      rw [finding, finding, hfirstReading, hsecondReading]
      cases phone? <;> rfl

end Checker

/-- Two layouts of one number get the same verdict, whatever is known about the countries and the
emergency numbers. -/
theorem evaluate_eq_of_layouts {first second : String} (hlong : 3 ≤ digits.length)
    (hfirst : Layout digits first.toList) (hsecond : Layout digits second.toList)
    (hfirstShort : first.length ≤ 250) (hsecondShort : second.length ≤ 250)
    (plan : NumberingPlan) (table : Option Country.Table) (sim network : Option String)
    (extra : List String) (home roaming : Option String) :
    let checker : Checker ε := planChecker plan table (.ofRegions sim network extra)
    (checker.evaluate (some first) home roaming).outcome =
      (checker.evaluate (some second) home roaming).outcome := by
  intro checker
  rw [Checker.evaluate_searches.1, Checker.evaluate_searches.1]
  have hsame : checker.finding (some first) home roaming =
      checker.finding (some second) home roaming := by
    funext reason
    exact Checker.finding_eq_of_layouts hfirst hsecond hlong hfirstShort hsecondShort reason
  rw [hsame]

/-- A number in parentheses and with a dash, under the plan in use. -/
theorem evaluate_eq_of_parentheses :
    let checker : Checker Empty := planChecker .current (some ⟨["CA", "US"]⟩)
      (.ofRegions (some "US") (some "CA") ["#31#"])
    3 ≤ "6502530000".toList.length ∧ Layout "6502530000".toList "6502530000".toList ∧
      Layout "6502530000".toList "(650) 253-0000 ".toList ∧
      (checker.evaluate (some "6502530000") (some "US") (some "CA")).outcome =
        (checker.evaluate (some "(650) 253-0000 ") (some "US") (some "CA")).outcome ∧
      (checker.evaluate (some "6502530000") (some "US") (some "CA")).outcome.toOption =
        some .eligible := by
  intro checker
  have hlong : 3 ≤ "6502530000".toList.length := by decide
  have hplain : Layout "6502530000".toList "6502530000".toList := by decide
  have hlayout : Layout "6502530000".toList "(650) 253-0000 ".toList := by decide
  refine ⟨hlong, hplain, hlayout, ?_, by decide⟩
  exact evaluate_eq_of_layouts hlong hplain hlayout (by decide) (by decide) .current _ _ _ _ _ _

end Eligibility

end AssistedDialing
