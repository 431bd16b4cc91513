import AssistedDialing.Proofs.RunLaws

/-!
# The first failing precondition

`Checker.finding` says of each reason, on its own, whether its precondition holds for a number and
two codes, and `Checker.questions` whom that precondition asks. `evaluate_searches` shows that a
check is the search through all reasons in their order. So the verdict, the failure and the
questions of a check are those of the first reason whose precondition does not hold.
-/

namespace AssistedDialing

namespace Reason

theorem mem_all (reason : Reason) : reason ∈ all := by
  cases reason <;> decide

theorem nodup_all : all.Nodup := by
  decide

end Reason

namespace PhoneNumber

/-- A calling code comes from the default country exactly when its source has that number. -/
theorem codeSource_eq_defaultCountry_iff {phone : PhoneNumber} :
    phone.codeSource = .defaultCountry ↔
      phone.source = some CodeSource.defaultCountry.number := by
  unfold codeSource
  cases phone.source with
  | none => simp
  | some n =>
      simp only [Option.some.injEq, CodeSource.number, CodeSource.ofNumber]
      repeat' split
      all_goals simp_all

end PhoneNumber

namespace Country.Table

/-- The empty code is not supported. -/
theorem ne_empty_of_isSupported {table : Table} {code : Option String}
    (h : table.isSupported code = true) : code.getD "" ≠ "" := by
  intro hempty
  have hnormal : normalize code = "" := by simp [normalize, hempty, normalizeText]; rfl
  simp [isSupported, hnormal] at h

/-- Two codes are supported when each of them is. -/
theorem areSupported_eq (table : Table) (home roaming : Option String) :
    table.areSupported home roaming = (table.isSupported home && table.isSupported roaming) := by
  cases hhome : table.isSupported home with
  | false => simp [areSupported, hhome]
  | true =>
      cases hroaming : table.isSupported roaming with
      | false => simp [areSupported, hroaming]
      | true =>
          simp [areSupported, hhome, hroaming, ne_empty_of_isSupported hhome,
            ne_empty_of_isSupported hroaming]

end Country.Table

namespace Eligibility

open Text (upper)

variable {ε : Type}

theorem given_eq_none_iff {text : Option String} : given text = none ↔ text.getD "" = "" := by
  unfold given
  split <;> simp_all

theorem given_of_ne {text : Option String} (h : text.getD "" ≠ "") :
    given text = some (text.getD "") := by
  unfold given
  split <;> simp_all

theorem ne_empty_of_given {text : Option String} {value : String} (h : given text = some value) :
    value ≠ "" := by
  rintro rfl
  unfold given at h
  split at h <;> simp_all

namespace EmergencyService

/-- `service.anyEmergency raw` is the general answer of a service or, when that is no, the local
one. -/
def anyEmergency (service : EmergencyService ε) (raw : String) : Except ε Bool :=
  match service.isEmergency raw with
  | .ok false => service.isLocalEmergency raw
  | answer => answer

/-- `service.emergencyQuestions raw` asks for the local answer only when the general one is no. -/
def emergencyQuestions (service : EmergencyService ε) (raw : String) : List Call :=
  match service.isEmergency raw with
  | .ok false => [.isEmergency raw, .isLocalEmergency raw]
  | _ => [.isEmergency raw]

end EmergencyService

theorem outcome_isAnyEmergency (service : EmergencyService ε) (raw : String) :
    (isAnyEmergency service raw).outcome = service.anyEmergency raw := by
  rcases hgeneral : service.isEmergency raw with error | _ | _ <;>
    simp [isAnyEmergency, EmergencyService.anyEmergency, Run.outcome_bind, Except.bind, hgeneral]

theorem calls_isAnyEmergency (service : EmergencyService ε) (raw : String) :
    (isAnyEmergency service raw).calls = service.emergencyQuestions raw := by
  rcases hgeneral : service.isEmergency raw with error | _ | _
  · rw [isAnyEmergency, Run.calls_bind_error hgeneral]
    simp [EmergencyService.emergencyQuestions, hgeneral]
  · rw [isAnyEmergency, Run.calls_bind_ok hgeneral]
    simp [EmergencyService.emergencyQuestions, hgeneral]
  · rw [isAnyEmergency, Run.calls_bind_ok hgeneral]
    simp [EmergencyService.emergencyQuestions, hgeneral]

theorem anyEmergency_classifierService (plan : NumberingPlan) (classifier : Emergency.Classifier)
    (raw : String) :
    (classifierService plan classifier : EmergencyService ε).anyEmergency raw =
      .ok (classifier.isAnyEmergency plan raw) := by
  cases hgeneral : classifier.isEmergency plan raw <;>
    simp [EmergencyService.anyEmergency, classifierService, Emergency.Classifier.isAnyEmergency,
      hgeneral]

namespace Checker

/-- `checker.reading number home` is the number that the parser reads for the country `home`, if it
can read it. -/
def reading (checker : Checker ε) (number home : Option String) :
    Except ε (Option ParsedNumber) :=
  match checker.parser with
  | some parser => (parser (number.getD "") (upper (home.getD ""))).map Except.toOption
  | none => .ok none

/-- `checker.finding number home roaming reason` is whether the precondition under `reason` holds
of a number and two codes, or the failure of the collaborator that it asks. -/
def finding (checker : Checker ε) (number home roaming : Option String) : Reason → Except ε Bool
  | .missingContext => .ok (checker.parser.isSome && checker.emergency.isSome)
  | .missingCountryTable => .ok checker.table.isSome
  | .emptyNumber => .ok (number.getD "" ≠ "")
  | .emptyHomeCode => .ok (home.getD "" ≠ "")
  | .emptyRoamCode => .ok (roaming.getD "" ≠ "")
  | .parseFailure => (checker.reading number home).map Option.isSome
  | .unsupportedCountry =>
      .ok (checker.table.any fun table ↦
        table.isSupported (upper (home.getD "")) && table.isSupported (upper (roaming.getD "")))
  | .notRoaming => .ok (upper (home.getD "") ≠ upper (roaming.getD ""))
  | .alreadyInternational =>
      (checker.reading number home).map fun parsed? ↦
        parsed?.any fun parsed ↦ !parsed.callingCode.isSome || parsed.source == .defaultCountry
  | .emergencyNumber =>
      match checker.emergency with
      | some service => (service.anyEmergency (number.getD "")).map fun answer ↦ !answer
      | none => .ok false
  | .invalidNumber =>
      (checker.reading number home).bind fun parsed? ↦
        match parsed? with
        | some parsed => checker.validator parsed
        | none => .ok false
  | .hasExtension =>
      (checker.reading number home).map fun parsed? ↦
        parsed?.any fun parsed ↦ parsed.extension.getD "" = ""

/-- `checker.questions number home reason` is what the precondition under `reason` asks the
collaborators, in order. -/
def questions (checker : Checker ε) (number home : Option String) : Reason → List Call
  | .parseFailure => [.parse (number.getD "") (upper (home.getD ""))]
  | .emergencyNumber =>
      match checker.emergency with
      | some service => service.emergencyQuestions (number.getD "")
      | none => []
  | .invalidNumber =>
      match checker.reading number home with
      | .ok (some parsed) => [.validate parsed.rawInput]
      | _ => []
  | _ => []

variable {checker : Checker ε} {number home roaming : Option String}

/-- On a number that was read, every precondition answers by its finding and asks its questions. -/
theorem preconditions_agree {table : Country.Table} {service : EmergencyService ε}
    {parsed : ParsedNumber} (htable : checker.table = some table)
    (hservice : checker.emergency = some service)
    (hreading : checker.reading number home = .ok (some parsed))
    {check : Reason × Run ε Bool}
    (hcheck : check ∈ checker.preconditions table service (number.getD "")
      (upper (home.getD "")) (upper (roaming.getD "")) parsed) :
    check.2.outcome = checker.finding number home roaming check.1 ∧
      check.2.calls = checker.questions number home check.1 := by
  simp only [preconditions, List.mem_cons, List.not_mem_nil, or_false] at hcheck
  rcases hcheck with rfl | rfl | rfl | rfl | rfl | rfl
  · simp [finding, questions, htable, Country.Table.areSupported_eq]
  · simp [finding, questions, Country.isRoaming]
  · constructor
    · simp [finding, hreading, Except.map, ParsedNumber.isInternational,
        ParsedNumber.hasCallingCode, bne]
    · rfl
  · have hmap : (do return !(← isAnyEmergency service (number.getD "")) : Run ε Bool) =
        (fun answer ↦ !answer) <$> isAnyEmergency service (number.getD "") := rfl
    constructor
    · simp [finding, hservice, hmap, outcome_isAnyEmergency]
    · simp [questions, hservice, hmap, calls_isAnyEmergency]
  · simp [finding, questions, hreading, Except.bind]
  · simp [finding, questions, hreading, Except.map, ParsedNumber.hasExtension]

/-- `checker.goOn table service raw home roaming` is the rest of a check, after the answer of the
parser. -/
def goOn (checker : Checker ε) (table : Country.Table) (service : EmergencyService ε)
    (raw home roaming : String) : Except ParseFailure ParsedNumber → Run ε Verdict
  | .error failure => do
      Run.report (unparsable failure)
      refuse .parseFailure
  | .ok parsed => firstFailing (checker.preconditions table service raw home roaming parsed)

/-- With all collaborators and texts given, a check begins by reading the number. -/
theorem evaluate_of_given
    {parser : String → String → Except ε (Except ParseFailure ParsedNumber)}
    {service : EmergencyService ε} {table : Country.Table}
    (hparser : checker.parser = some parser) (hservice : checker.emergency = some service)
    (htable : checker.table = some table) (hnumber : number.getD "" ≠ "")
    (hhome : home.getD "" ≠ "") (hroaming : roaming.getD "" ≠ "") :
    checker.evaluate number home roaming =
      Run.ask (.parse (number.getD "") (upper (home.getD "")))
          (parser (number.getD "") (upper (home.getD ""))) >>=
        checker.goOn table service (number.getD "") (upper (home.getD ""))
          (upper (roaming.getD "")) := by
  simp only [evaluate, hparser, hservice, htable, given_of_ne hnumber, given_of_ne hhome,
    given_of_ne hroaming]
  rfl

/-- With all collaborators and texts given, a check searches on from the parser. -/
theorem evaluate_searches_of_given
    {parser : String → String → Except ε (Except ParseFailure ParsedNumber)}
    {service : EmergencyService ε} {table : Country.Table}
    (hparser : checker.parser = some parser) (hservice : checker.emergency = some service)
    (htable : checker.table = some table) (hnumber : number.getD "" ≠ "")
    (hhome : home.getD "" ≠ "") (hroaming : roaming.getD "" ≠ "") :
    (checker.evaluate number home roaming).outcome =
        search (checker.finding number home roaming) (Reason.all.drop 5) ∧
      (checker.evaluate number home roaming).calls =
        asked (checker.finding number home roaming) (checker.questions number home)
          (Reason.all.drop 5) := by
  rw [evaluate_of_given hparser hservice htable hnumber hhome hroaming]
  cases hanswer : parser (number.getD "") (upper (home.getD "")) with
  | error error =>
      have hreading : checker.reading number home = .error error := by
        simp [reading, hparser, hanswer, Except.map]
      simp [Run.outcome_bind, Run.calls_bind_error, Except.bind, Except.map, Reason.all,
        finding, questions, hreading]
  | ok result =>
      have hask : (Run.ask (.parse (number.getD "") (upper (home.getD "")))
          (.ok result : Except ε (Except ParseFailure ParsedNumber))).outcome = .ok result := rfl
      rw [Run.outcome_bind, Run.calls_bind_ok hask, hask]
      cases result with
      | error failure =>
          have hreading : checker.reading number home = .ok none := by
            simp [reading, hparser, hanswer, Except.map, Except.toOption]
          simp [goOn, Run.outcome_bind, Run.calls_bind_ok, Except.bind, Except.map, Reason.all,
            finding, questions, hreading]
      | ok parsed =>
          have hreading : checker.reading number home = .ok (some parsed) := by
            simp [reading, hparser, hanswer, Except.map, Except.toOption]
          have hparsed : checker.finding number home roaming .parseFailure = .ok true := by
            simp [finding, hreading, Except.map]
          have hrest : (checker.preconditions table service (number.getD "")
              (upper (home.getD "")) (upper (roaming.getD "")) parsed).map Prod.fst =
                Reason.all.drop 6 := rfl
          have hagree (check) (hcheck : check ∈ checker.preconditions table service
              (number.getD "") (upper (home.getD "")) (upper (roaming.getD "")) parsed) :=
            preconditions_agree htable hservice hreading hcheck
          have houtcome := outcome_firstFailing fun check hcheck ↦ (hagree check hcheck).1
          have hcalls := calls_firstFailing (fun check hcheck ↦ (hagree check hcheck).1)
            fun check hcheck ↦ (hagree check hcheck).2
          rw [hrest] at houtcome hcalls
          constructor
          · show (firstFailing _).outcome = search _ (.parseFailure :: Reason.all.drop 6)
            rw [houtcome, search, hparsed]
          · show _ ++ (firstFailing _).calls = asked _ _ (.parseFailure :: Reason.all.drop 6)
            rw [hcalls, asked, hparsed]
            rfl

/-- A check is the search through all reasons for the first whose precondition does not hold. -/
theorem evaluate_searches :
    (checker.evaluate number home roaming).outcome =
        search (checker.finding number home roaming) Reason.all ∧
      (checker.evaluate number home roaming).calls =
        asked (checker.finding number home roaming) (checker.questions number home)
          Reason.all := by
  cases hparser : checker.parser with
  | none => simp [evaluate, Reason.all, finding, questions, hparser]
  | some parser =>
  cases hservice : checker.emergency with
  | none =>
      simp [evaluate, Reason.all, finding, questions, hparser, hservice]
  | some service =>
  cases htable : checker.table with
  | none =>
      simp [evaluate, Reason.all, finding, questions, hparser, hservice,
        htable]
  | some table =>
  by_cases hnumber : number.getD "" = ""
  · simp [evaluate, Reason.all, finding, questions, hparser, hservice,
      htable, given_eq_none_iff.mpr hnumber, hnumber]
  by_cases hhome : home.getD "" = ""
  · simp [evaluate, Reason.all, finding, questions, hparser, hservice,
      htable, given_of_ne hnumber, given_eq_none_iff.mpr hhome, hnumber, hhome]
  by_cases hroaming : roaming.getD "" = ""
  · simp [evaluate, Reason.all, finding, questions, hparser, hservice,
      htable, given_of_ne hnumber, given_of_ne hhome, given_eq_none_iff.mpr hroaming, hnumber,
      hhome, hroaming]
  -- all that precedes the parser holds, and asks nobody
  have hgiven := evaluate_searches_of_given hparser hservice htable hnumber hhome hroaming
  simpa [Reason.all, finding, questions, hparser, hservice, htable, hnumber,
    hhome, hroaming] using hgiven

/-- A number is eligible exactly when every precondition holds. -/
theorem evaluate_eligible_iff :
    (checker.evaluate number home roaming).outcome = .ok .eligible ↔
      ∀ reason, checker.finding number home roaming reason = .ok true := by
  rw [evaluate_searches.1, search_eq_eligible_iff]
  simp [Reason.mem_all]

/-- A number is refused for a reason exactly when all earlier preconditions hold and the one under
the reason fails. -/
theorem evaluate_ineligible_iff {reason : Reason} :
    (checker.evaluate number home roaming).outcome = .ok (.ineligible reason) ↔
      reaches (checker.finding number home roaming) Reason.all reason = true ∧
        checker.finding number home roaming reason = .ok false := by
  rw [evaluate_searches.1, search_eq_ineligible_iff]
  simp [Reason.mem_all]

/-- A check fails exactly when all preconditions before a failing collaborator hold. -/
theorem evaluate_error_iff {error : ε} :
    (checker.evaluate number home roaming).outcome = .error error ↔
      ∃ reason, reaches (checker.finding number home roaming) Reason.all reason = true ∧
        checker.finding number home roaming reason = .error error := by
  rw [evaluate_searches.1, search_eq_error_iff]
  simp [Reason.mem_all]

/-- A check asks the questions of the preconditions that it reaches, in their order. -/
theorem calls_evaluate :
    (checker.evaluate number home roaming).calls =
      (Reason.all.filter (reaches (checker.finding number home roaming) Reason.all)).flatMap
        (checker.questions number home) := by
  rw [evaluate_searches.2, asked_eq_flatMap Reason.nodup_all]

/-- A phone number has its own calling code unless the code is absent or that of the default
country; an absent or unassigned source counts as its own. -/
theorem finding_alreadyInternational {raw : String} {phone : PhoneNumber}
    (hreading : checker.reading number home = .ok (some (.ofPhoneNumber raw phone))) :
    checker.finding number home roaming .alreadyInternational = .ok true ↔
      phone.callingCode = none ∨ phone.source = some CodeSource.defaultCountry.number := by
  simp [finding, hreading, Except.map, ParsedNumber.ofPhoneNumber,
    PhoneNumber.codeSource_eq_defaultCountry_iff]

/-- A check reports the first reason whose precondition fails and is eligible exactly when none
does. It fails where a collaborator that it asks fails, and it asks the questions of the
preconditions up to the decisive one. The short answer is that of the full check, and a number has
its own calling code unless the code is absent or comes from the default country. -/
theorem evaluate_first_failing (checker : Checker ε) (number home roaming : Option String) :
    let finding := checker.finding number home roaming
    let reached := reaches finding Reason.all
    let run := checker.evaluate number home roaming
    let short := checker.meetsPreconditions number home roaming
    (run.outcome = .ok .eligible ↔ ∀ reason, finding reason = .ok true) ∧
      (∀ reason, run.outcome = .ok (.ineligible reason) ↔
        reached reason = true ∧ finding reason = .ok false) ∧
      (∀ error, run.outcome = .error error ↔
        ∃ reason, reached reason = true ∧ finding reason = .error error) ∧
      run.calls = (Reason.all.filter reached).flatMap (checker.questions number home) ∧
      (∀ verdict, run.outcome = .ok verdict →
        (verdict.isEligible = true ↔ verdict.reason? = none)) ∧
      short.outcome = run.outcome.map Verdict.isEligible ∧ short.calls = run.calls ∧
      (∀ raw phone, checker.reading number home = .ok (some (.ofPhoneNumber raw phone)) →
        (finding .alreadyInternational = .ok true ↔
          phone.callingCode = none ∨ phone.source = some CodeSource.defaultCountry.number)) := by
  refine ⟨evaluate_eligible_iff, fun _ ↦ evaluate_ineligible_iff, fun _ ↦ evaluate_error_iff,
    calls_evaluate, ?_, ?_, ?_, ?_⟩
  · intro verdict _
    exact verdict.reason?_eq_none_iff.symm
  · exact Run.outcome_map _ _
  · exact Run.calls_map _ _
  · intro raw phone hreading
    exact finding_alreadyInternational hreading

end Checker

end Eligibility

end AssistedDialing
