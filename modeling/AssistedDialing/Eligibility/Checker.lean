import AssistedDialing.Country.Location
import AssistedDialing.Country.Table
import AssistedDialing.Eligibility.Run
import AssistedDialing.Eligibility.Verdict
import AssistedDialing.Emergency.Classifier
import AssistedDialing.Dialled.Parse

/-!
# Eligibility for assisted dialing

A `Checker` decides whether a number may be offered assisted dialing. `evaluate` checks the
preconditions in a fixed order and stops at the first that fails. A checker asks collaborators,
which may be missing and may fail: a number parser, a classifier of emergency numbers, a table of
supported countries and a validator.
-/

namespace AssistedDialing.Eligibility

/-- The name of the logger of this module. -/
def loggerName : String := "assistdial.core.constraints"

/-- A classifier of emergency numbers, whose answers may fail. -/
structure EmergencyService (ε : Type) where
  isEmergency : String → Except ε Bool
  isLocalEmergency : String → Except ε Bool

/-- What a check needs. A collaborator that is `none` is missing. -/
structure Checker (ε : Type) where
  parser : Option (String → String → Except ε (Except ParseFailure ParsedNumber))
  table : Option Country.Table
  emergency : Option (EmergencyService ε)
  validator : ParsedNumber → Except ε Bool

/-- `refusal reason` is the report that a number is refused. -/
def refusal (reason : Reason) : Log.Entry where
  level := Log.Level.info
  logger := loggerName
  message := "Assisted dialing not offered: " ++ reason.text

/-- `unparsable failure` is the report that a number cannot be parsed. -/
def unparsable (failure : ParseFailure) : Log.Entry where
  level := Log.Level.debug
  logger := loggerName
  message := "Could not parse number: " ++ failure.message

/-- `checked reason passed` is the report on one precondition, named by its reason. -/
def checked (reason : Reason) (passed : Bool) : Log.Entry where
  level := Log.Level.debug
  logger := loggerName
  message := "Precondition " ++ reason.text ++ " passed=" ++ Value.boolText passed

variable {ε : Type}

/-- `refuse reason` reports the reason and gives the verdict. -/
def refuse (reason : Reason) : Run ε Verdict := do
  Run.report (refusal reason)
  return .ineligible reason

/-- `firstFailing preconditions` runs the preconditions in order up to the first that fails. -/
def firstFailing : List (Reason × Run ε Bool) → Run ε Verdict
  | [] => return .eligible
  | (reason, precondition) :: preconditions => do
      let passed ← precondition
      Run.report (checked reason passed)
      if passed then firstFailing preconditions else refuse reason

/-- `isAnyEmergency service raw` asks for the general answer and, unless that is yes, for the local
one. -/
def isAnyEmergency (service : EmergencyService ε) (raw : String) : Run ε Bool := do
  if ← Run.ask (.isEmergency raw) (service.isEmergency raw) then return true
  Run.ask (.isLocalEmergency raw) (service.isLocalEmergency raw)

/-- `given text` is a text that is present and not empty. -/
def given : Option String → Option String
  | none | some "" => none
  | some text => some text

namespace Checker

/-- `checker.preconditions table service raw home roaming parsed` is the preconditions on a parsed
number and two codes in upper case, in order, each under the reason that it excludes. -/
def preconditions (checker : Checker ε) (table : Country.Table) (service : EmergencyService ε)
    (raw home roaming : String) (parsed : ParsedNumber) : List (Reason × Run ε Bool) :=
  [(.unsupportedCountry, return table.areSupported (some home) (some roaming)),
   (.notRoaming, return Country.isRoaming (some home) (some roaming)),
   (.alreadyInternational, return !parsed.isInternational),
   (.emergencyNumber, return !(← isAnyEmergency service raw)),
   (.invalidNumber, Run.ask (.validate parsed.rawInput) (checker.validator parsed)),
   (.hasExtension, return !parsed.hasExtension)]

/-- `checker.evaluate number home roaming` is the verdict on a number, dialled by a user from the
country `home` who is in the country `roaming`. -/
def evaluate (checker : Checker ε) (number home roaming : Option String) : Run ε Verdict :=
  match checker.parser, checker.emergency with
  | some parser, some service =>
      match checker.table, given number, given home, given roaming with
      | none, _, _, _ => refuse .missingCountryTable
      | _, none, _, _ => refuse .emptyNumber
      | _, _, none, _ => refuse .emptyHomeCode
      | _, _, _, none => refuse .emptyRoamCode
      | some table, some raw, some home, some roaming => do
          let home := Text.upper home
          let roaming := Text.upper roaming
          match ← Run.ask (.parse raw home) (parser raw home) with
          | .error failure =>
              Run.report (unparsable failure)
              refuse .parseFailure
          | .ok parsed =>
              firstFailing (checker.preconditions table service raw home roaming parsed)
  | _, _ => refuse .missingContext

/-- `checker.meetsPreconditions number home roaming` is the verdict as a truth value. -/
def meetsPreconditions (checker : Checker ε) (number home roaming : Option String) : Run ε Bool :=
  Verdict.isEligible <$> checker.evaluate number home roaming

end Checker

/-- `planParser plan` reads numbers by a numbering plan and never fails. -/
def planParser (plan : NumberingPlan) :
    String → String → Except ε (Except ParseFailure ParsedNumber) :=
  fun raw region ↦ .ok (parseNumber plan raw region)

/-- `planValidator plan` accepts the numbers that a numbering plan assigns. -/
def planValidator (plan : NumberingPlan) : ParsedNumber → Except ε Bool :=
  fun parsed ↦ .ok (plan.isValid parsed.number)

/-- `classifierService plan classifier` answers by a classifier and never fails. -/
def classifierService (plan : NumberingPlan) (classifier : Emergency.Classifier) :
    EmergencyService ε where
  isEmergency := fun raw ↦ .ok (classifier.isEmergency plan raw)
  isLocalEmergency := fun raw ↦ .ok (classifier.isLocalEmergency plan raw)

end AssistedDialing.Eligibility
