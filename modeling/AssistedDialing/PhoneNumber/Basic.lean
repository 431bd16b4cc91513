import AssistedDialing.PhoneNumber.Source
import AssistedDialing.Value.Display

/-!
# Phone numbers

A `PhoneNumber` is a calling code with a national number. The national number is an integer, so the
zeros before it are counted apart. A `ParsedNumber` is a phone number together with the text that it
was read from, and a `ParseFailure` says why a text is no phone number.
-/

namespace AssistedDialing

/-- A phone number. Each part may be absent; `source` is the assigned number of a `CodeSource`. -/
structure PhoneNumber where
  callingCode : Option Int
  nationalNumber : Option Int
  leadingZeros : Nat := 0
  extension : Option String
  source : Option Int
  deriving DecidableEq, Repr, Inhabited

namespace PhoneNumber

/-- `number.nationalDigits` is the national number as it is dialled, with its leading zeros. -/
def nationalDigits (number : PhoneNumber) : List Char :=
  match number.nationalNumber with
  | some n => List.replicate number.leadingZeros '0' ++ Json.intChars n
  | none => []

/-- `number.codeSource` is where the calling code came from; an absent or unassigned source is
unspecified. -/
def codeSource (number : PhoneNumber) : CodeSource :=
  match number.source with
  | some n => CodeSource.ofNumber n
  | none => .unspecified

end PhoneNumber

/-- A phone number with the text that it was read from. -/
structure ParsedNumber where
  rawInput : String
  callingCode : Option Int
  nationalNumber : Int
  extension : Option String
  source : CodeSource
  number : PhoneNumber
  deriving DecidableEq, Repr, Inhabited

namespace ParsedNumber

/-- `ofPhoneNumber raw number` is the phone number `number` as read from `raw`. -/
def ofPhoneNumber (raw : String) (number : PhoneNumber) : ParsedNumber where
  rawInput := raw
  callingCode := number.callingCode
  nationalNumber := number.nationalNumber.getD 0
  extension := number.extension
  source := number.codeSource
  number := number

/-- `parsed.hasCallingCode` holds when the calling code is known. -/
def hasCallingCode (parsed : ParsedNumber) : Bool :=
  parsed.callingCode.isSome

/-- `parsed.isInternational` holds when the number came with its own calling code, rather than with
that of the default country. -/
def isInternational (parsed : ParsedNumber) : Bool :=
  parsed.hasCallingCode && parsed.source != .defaultCountry

/-- `parsed.hasExtension` holds when the number has an extension that is not empty. -/
def hasExtension (parsed : ParsedNumber) : Bool :=
  parsed.extension.getD "" ≠ ""

end ParsedNumber

/-- Why a text is no phone number: the text, the number of the error and its message. -/
structure ParseFailure where
  rawInput : String
  errorType : Int
  message : String
  deriving DecidableEq, Repr, Inhabited

end AssistedDialing
