import AssistedDialing.PhoneNumber.Basic
import AssistedDialing.Dialled.Link
import AssistedDialing.Dialled.Prefix
import AssistedDialing.Dialled.Viable

/-!
# Reading phone numbers

`Dialled.read` reads a phone number for a default region. The number keeps where its calling code
came from. `parseNumber` gives the result as a `ParsedNumber` or a `ParseFailure`.
-/

namespace AssistedDialing.Dialled

/-- The greatest length of a text that is read. -/
def mostCharacters : Nat := 250

/-- The least number of national digits. -/
def leastDigits : Nat := 2

/-- The greatest number of national digits. -/
def mostDigits : Nat := 17

/-- `callingCode plan region cs` separates the calling code of a number. A number whose plus sign is
not followed by a calling code is tried without the plus sign. -/
def callingCode (plan : NumberingPlan) (region : Option Region) (cs : List Char) :
    Except ParseError Extraction :=
  match extractCallingCode plan region cs with
  | .error .unknownCallingCode =>
      if startsWithPlus cs then
        match extractCallingCode plan region (cs.dropWhile isPlus) with
        | .ok found => if found.code.isSome then .ok found else .error .unreadableAfterPlus
        | .error error => .error error
      else .error .unknownCallingCode
  | result => result

/-- `withoutNationalPrefix region digits` removes a national prefix, unless what remains has no
length of a complete number of the region. -/
def withoutNationalPrefix (region : Option Region) (digits : List Char) : List Char :=
  match region with
  | none => digits
  | some region =>
      let national := stripNationalPrefix region digits
      match checkLength region national with
      | .tooShort | .localOnly | .invalid => digits
      | .possible | .tooLong => national

/-- `leadingZeroCount digits` is the number of zeros before the last digit that no other digit
precedes. -/
def leadingZeroCount (digits : List Char) : Nat :=
  (digits.dropLast.takeWhile (· == '0')).length

/-- `ofDigits code source extension digits` is the number of a calling code with the national
`digits`, if those are neither too few nor too many. -/
def ofDigits (code : Nat) (source : CodeSource) (extension : Option (List Char))
    (digits : List Char) : Except ParseError PhoneNumber :=
  if digits.length < leastDigits then .error .tooShort
  else if mostDigits < digits.length then .error .tooLong
  else .ok
    { callingCode := some code
      nationalNumber := some ((Text.asciiNumber? digits).getD 0 : Nat)
      leadingZeros := leadingZeroCount digits
      extension := extension.map String.ofList
      source := some source.number }

/-- `read plan raw region` reads the phone number in the text `raw`, as dialled in `region`. -/
def read (plan : NumberingPlan) (raw : String) (region : Option String) :
    Except ParseError PhoneNumber := do
  if mostCharacters < raw.toList.length then throw .textTooLong
  let text ← dialled raw.toList
  if !isViable text then throw .notViable
  let home := region.bind plan.region?
  if home.isNone && !startsWithPlus text then throw .missingRegion
  let (number, extension) := splitExtension text
  let found ← callingCode plan home number
  let (code, owner, digits) : Nat × Option Region × List Char := match found.code with
    | some code => (code, (plan.regionsOf code).head?, found.rest)
    | none => ((home.map Region.callingCode).getD 0, home, normalize number)
  if digits.length < leastDigits then throw ParseError.tooShort
  ofDigits code found.source extension (withoutNationalPrefix owner digits)

end AssistedDialing.Dialled

namespace AssistedDialing

open Dialled in
/-- `parseNumber plan raw region` reads a phone number; the empty region is no region. -/
def parseNumber (plan : NumberingPlan) (raw region : String) : Except ParseFailure ParsedNumber :=
  match read plan raw (if region = "" then none else some (Text.upper region)) with
  | .ok number => .ok (ParsedNumber.ofPhoneNumber raw number)
  | .error error => .error ⟨raw, error.errorType, error.message⟩

end AssistedDialing
