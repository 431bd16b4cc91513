import AssistedDialing.Proofs.LayoutVerdict
import AssistedDialing.Proofs.ReadNumber
import AssistedDialing.Proofs.UpperCase

/-!
# The contract of the parser

`ParsedNumber.WellRead` is what holds of every number that a parser returns: its calling code is
known and positive, its source is known and, where that is the default country, there is one.
`parser_contract` adds what a check makes of it: an eligible number has the calling code of the home
country.
-/

namespace AssistedDialing

open Dialled (NationalDigits ParseError)
open Text (upper)

variable {plan : NumberingPlan} {raw region : String}

theorem CodeSource.ofNumber_number (source : CodeSource) : ofNumber source.number = source := by
  cases source <;> rfl

namespace ParsedNumber

/-- `parsed.WellRead plan raw region` is what a check relies on when `parsed` was read from `raw`
for the country `region`. -/
structure WellRead (plan : NumberingPlan) (raw region : String) (parsed : ParsedNumber) : Prop where
  rawInput_eq : parsed.rawInput = raw
  length_le : raw.length ≤ 250
  callingCode_pos : ∃ code : Nat, parsed.callingCode = some (code : Int) ∧ 0 < code
  nationalNumber_bounds : 0 ≤ parsed.nationalNumber ∧ parsed.nationalNumber < 10 ^ 17
  nationalNumber_eq : ∃ (digits : List Char) (n : Nat),
    NationalDigits digits n ∧ parsed.nationalNumber = (n : Int)
  source_ne : parsed.source ≠ .unspecified
  home_of_default : parsed.source = .defaultCountry →
    ∃ home, plan.region? (upper region) = some home ∧
      parsed.callingCode = some (home.callingCode : Int)
  isInternational_iff : parsed.isInternational = true ↔ parsed.source ≠ .defaultCountry

end ParsedNumber

namespace Eligibility

variable {ε : Type}

theorem region?_of_homeRegion? {home : Region} (h : homeRegion? plan region = some home) :
    plan.region? (upper region) = some home := by
  unfold homeRegion? at h
  split at h
  · cases h
  · exact h

/-- Every number that is read satisfies the contract. -/
theorem wellRead_of_parseNumber (hplan : plan.WellFormed) {parsed : ParsedNumber}
    (h : parseNumber plan raw region = .ok parsed) : parsed.WellRead plan raw region := by
  unfold parseNumber at h
  split at h
  · next number hread =>
    cases h
    obtain ⟨hlength, text, -, -, hfrom⟩ := Dialled.read_readFrom hread
    have hhome : ∀ home ∈ homeRegion? plan region, home.WellFormed :=
      fun home hmem ↦ hplan home (NumberingPlan.mem_of_region? (region?_of_homeRegion? hmem))
    obtain ⟨source, code, n, digits, hsource, hcode, horigin, hnational, hdigits⟩ :=
      hfrom.spec hplan hhome
    have hcodeSource : number.codeSource = source := by
      rw [PhoneNumber.codeSource, hsource]
      exact source.ofNumber_number
    exact
      { rawInput_eq := rfl
        length_le := by
          rw [← String.length_toList]
          exact hlength
        callingCode_pos := ⟨code, hcode, horigin.pos hhome⟩
        nationalNumber_bounds := by
          have hlt : n < 10 ^ 17 := hdigits.lt
          simp only [ParsedNumber.ofPhoneNumber, hnational, Option.getD_some]
          exact ⟨Int.natCast_nonneg n, by exact_mod_cast hlt⟩
        nationalNumber_eq := ⟨digits, n, hdigits, by simp [ParsedNumber.ofPhoneNumber, hnational]⟩
        source_ne := by
          simp only [ParsedNumber.ofPhoneNumber, hcodeSource]
          exact horigin.ne_unspecified
        home_of_default := by
          intro hdefault
          simp only [ParsedNumber.ofPhoneNumber, hcodeSource] at hdefault
          obtain ⟨home, hhome, rfl⟩ := (hdefault ▸ horigin).exists_home
          exact ⟨home, region?_of_homeRegion? hhome, hcode⟩
        isInternational_iff := by
          simp [ParsedNumber.isInternational, ParsedNumber.hasCallingCode,
            ParsedNumber.ofPhoneNumber, hcode] }
  · cases h

/-- A text that is no phone number is reported unchanged, with an error of the parser. -/
theorem failure_of_parseNumber {failure : ParseFailure}
    (h : parseNumber plan raw region = .error failure) :
    failure.rawInput = raw ∧ ∃ error : ParseError,
      failure.errorType = error.errorType ∧ failure.message = error.message := by
  unfold parseNumber at h
  split at h
  · cases h
  · next error _ =>
    cases h
    exact ⟨rfl, error, rfl, rfl⟩

/-- What a check reads with the parser of a plan. -/
theorem reading_of_planParser {checker : Checker ε}
    (hparser : checker.parser = some (planParser plan)) (number home : Option String) :
    checker.reading number home =
      .ok (parseNumber plan (number.getD "") (upper (home.getD ""))).toOption := by
  rw [Checker.reading, hparser]
  rfl

/-- A number that a check finds eligible was read with the calling code of the home country. -/
theorem homeCode_of_eligible (hplan : plan.WellFormed) {checker : Checker ε}
    (hparser : checker.parser = some (planParser plan)) {number home roaming : Option String}
    (h : (checker.evaluate number home roaming).outcome = .ok .eligible) :
    ∃ parsed region, checker.reading number home = .ok (some parsed) ∧
      plan.region? (upper (home.getD "")) = some region ∧
        parsed.callingCode = some (region.callingCode : Int) := by
  have hfindings := Checker.evaluate_eligible_iff.mp h
  have hreading := reading_of_planParser hparser number home
  cases hparse : parseNumber plan (number.getD "") (upper (home.getD "")) with
  | error failure =>
      have hread := hfindings .parseFailure
      simp [Checker.finding, hreading, hparse, Except.map, Except.toOption] at hread
  | ok parsed =>
      rw [hparse] at hreading
      have hwell := wellRead_of_parseNumber hplan hparse
      obtain ⟨code, hcode, -⟩ := hwell.callingCode_pos
      -- its calling code is known, so it passed as a number of the default country
      have hdefault : parsed.source = .defaultCountry := by
        have hown := hfindings .alreadyInternational
        simpa [Checker.finding, hreading, Except.map, Except.toOption, hcode] using hown
      obtain ⟨region, hregion, hsame⟩ := hwell.home_of_default hdefault
      rw [Text.upper_upper] at hregion
      exact ⟨parsed, region, hreading, hregion, hsame⟩

/-- A parser of a well-formed plan always answers, with a number that satisfies the contract or with
a failure that keeps the text. So a check that uses it finds a number eligible only under the
calling code of the home country. -/
theorem parser_contract (plan : NumberingPlan) (hplan : plan.WellFormed) :
    (∀ raw region, ∃ result,
      (planParser plan raw region : Except ε (Except ParseFailure ParsedNumber)) = .ok result ∧
        (∀ parsed, result = .ok parsed → parsed.WellRead plan raw region) ∧
        ∀ failure, result = .error failure → failure.rawInput = raw ∧ ∃ error : ParseError,
          failure.errorType = error.errorType ∧ failure.message = error.message) ∧
      ∀ (checker : Checker ε) (number home roaming : Option String),
        checker.parser = some (planParser plan) →
        (checker.evaluate number home roaming).outcome = .ok .eligible →
        ∃ parsed region, checker.reading number home = .ok (some parsed) ∧
          plan.region? (upper (home.getD "")) = some region ∧
            parsed.callingCode = some (region.callingCode : Int) := by
  constructor
  · intro raw region
    exact ⟨_, rfl, fun _ ↦ wellRead_of_parseNumber hplan, fun _ ↦ failure_of_parseNumber⟩
  · intro checker number home roaming hparser heligible
    exact homeCode_of_eligible hplan hparser heligible

/-- The contract under the plan in use, for a number that is eligible. -/
theorem parser_contract_eligible :
    let checker : Checker Empty := planChecker .current (some ⟨["CA", "US"]⟩)
      (.ofRegions (some "US") (some "CA") [])
    NumberingPlan.current.WellFormed ∧ checker.parser = some (planParser .current) ∧
      (checker.evaluate (some "6502530000") (some "us") (some "ca")).outcome = .ok .eligible ∧
        ∃ parsed region, checker.reading (some "6502530000") (some "us") = .ok (some parsed) ∧
          NumberingPlan.current.region? "US" = some region ∧
            parsed.callingCode = some (region.callingCode : Int) := by
  intro checker
  have heligible : (checker.evaluate (some "6502530000") (some "us") (some "ca")).outcome =
      .ok .eligible := by
    decide
  have hus : upper "us" = "US" := by decide
  obtain ⟨-, hcheck⟩ := parser_contract .current NumberingPlan.current_wellFormed
  refine ⟨NumberingPlan.current_wellFormed, rfl, heligible, ?_⟩
  rw [← hus]
  exact hcheck checker (some "6502530000") (some "us") (some "ca") rfl heligible

end Eligibility

end AssistedDialing
