/-!
# Reasons against assisted dialing

A number that may not be offered assisted dialing is refused for one reason: the first precondition,
in the order of the constructors, that does not hold.
-/

namespace AssistedDialing

/-- The precondition that fails first. -/
inductive Reason where
  | missingContext
  | missingCountryTable
  | emptyNumber
  | emptyHomeCode
  | emptyRoamCode
  | parseFailure
  | unsupportedCountry
  | notRoaming
  | alreadyInternational
  | emergencyNumber
  | invalidNumber
  | hasExtension
  deriving DecidableEq, Repr, Inhabited

namespace Reason

/-- All reasons, in the order in which the preconditions are checked. -/
def all : List Reason :=
  [missingContext, missingCountryTable, emptyNumber, emptyHomeCode, emptyRoamCode, parseFailure,
   unsupportedCountry, notRoaming, alreadyInternational, emergencyNumber, invalidNumber,
   hasExtension]

/-- `reason.text` is the reason as reports and log messages name it. -/
def text : Reason → String
  | missingContext => "missing-context"
  | missingCountryTable => "missing-country-table"
  | emptyNumber => "empty-number"
  | emptyHomeCode => "empty-home-code"
  | emptyRoamCode => "empty-roam-code"
  | parseFailure => "parse-failure"
  | unsupportedCountry => "unsupported-country"
  | notRoaming => "not-roaming"
  | alreadyInternational => "already-international"
  | emergencyNumber => "emergency-number"
  | invalidNumber => "invalid-number"
  | hasExtension => "has-extension"

/-- `reason.symbol` is the reason as a constant. -/
def symbol : Reason → String
  | missingContext => "MISSING_CONTEXT"
  | missingCountryTable => "MISSING_COUNTRY_TABLE"
  | emptyNumber => "EMPTY_NUMBER"
  | emptyHomeCode => "EMPTY_HOME_CODE"
  | emptyRoamCode => "EMPTY_ROAM_CODE"
  | parseFailure => "PARSE_FAILURE"
  | unsupportedCountry => "UNSUPPORTED_COUNTRY"
  | notRoaming => "NOT_ROAMING"
  | alreadyInternational => "ALREADY_INTERNATIONAL"
  | emergencyNumber => "EMERGENCY_NUMBER"
  | invalidNumber => "INVALID_NUMBER"
  | hasExtension => "HAS_EXTENSION"

/-- `ofText? s` is the reason that reports name `s`. -/
def ofText? (s : String) : Option Reason :=
  all.find? fun reason ↦ reason.text = s

/-- `reason.display` is the constant with the name of its kind. -/
def display (reason : Reason) : String :=
  "IneligibleReason." ++ reason.symbol

/-- `reason.quoted` is the constant together with its text. -/
def quoted (reason : Reason) : String :=
  "<" ++ reason.display ++ ": '" ++ reason.text ++ "'>"

end Reason

end AssistedDialing
