/-!
# Why a text is no phone number

`ParseError` lists the ways in which reading a phone number fails. Each has a number, shared by
several errors, and a message.
-/

namespace AssistedDialing.Dialled

/-- The reason why a text is no phone number. -/
inductive ParseError where
  | textTooLong
  | invalidContext
  | notViable
  | missingRegion
  | tooShortAfterPrefix
  | unknownCallingCode
  | unreadableAfterPlus
  | tooShort
  | tooLong
  deriving DecidableEq, Repr, Inhabited

namespace ParseError

/-- `error.errorType` is the number of the error. -/
def errorType : ParseError → Int
  | missingRegion | unknownCallingCode | unreadableAfterPlus => 0
  | invalidContext | notViable => 1
  | tooShortAfterPrefix => 2
  | tooShort => 3
  | textTooLong | tooLong => 4

/-- `error.description` says what is wrong with the text. -/
def description : ParseError → String
  | textTooLong => "The string supplied was too long to parse."
  | invalidContext => "The phone-context value is invalid"
  | notViable => "The string supplied did not seem to be a phone number."
  | missingRegion => "Missing or invalid default region."
  | tooShortAfterPrefix =>
      "Phone number had an IDD, but after this was not long enough to be a viable phone number."
  | unknownCallingCode => "Country calling code supplied was not recognised."
  | unreadableAfterPlus => "Could not interpret numbers after plus-sign."
  | tooShort => "The string supplied is too short to be a phone number."
  | tooLong => "The string supplied is too long to be a phone number."

/-- `error.message` is the number of the error in parentheses and its description. -/
def message (error : ParseError) : String :=
  "(" ++ toString error.errorType ++ ") " ++ error.description

end ParseError

end AssistedDialing.Dialled
