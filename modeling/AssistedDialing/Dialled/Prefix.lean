import AssistedDialing.NumberingPlan.Basic
import AssistedDialing.Dialled.Error
import AssistedDialing.Dialled.Keypad
import AssistedDialing.PhoneNumber.Source

/-!
# Prefixes

Digits may stand before a national number: a plus sign or an international prefix with a calling
code, the calling code alone, or the national prefix of a region. `extractCallingCode` separates a
calling code and `stripNationalPrefix` a national prefix.
-/

namespace AssistedDialing.Dialled

/-- `stripNationalPrefix region digits` removes the national prefix from `digits`, or replaces it by
the rule of the region. A number that fits the region is left alone if the change would spoil it. -/
def stripNationalPrefix (region : Region) (digits : List Char) : List Char :=
  match region.nationalPrefix.bind fun pattern ↦ pattern.first? digits with
  | none => digits
  | some found =>
      let shortened := match region.prefixRule with
        | some rule => match found.group? rule.group with
          | some part => rule.digits.toList ++ part ++ found.rest
          | none => found.rest
        | none => found.rest
      let fits := region.general.pattern.matchesAll
      if digits.isEmpty || (fits digits && !fits shortened) then digits else shortened

/-- `stripInternationalPrefix? region digits` is what follows the international prefix of a region.
A zero behind it shows that it was no international prefix. -/
def stripInternationalPrefix? (region : Option Region) (digits : List Char) :
    Option (List Char) :=
  match region.bind fun region ↦ region.internationalPrefix.bind fun pattern ↦
    pattern.first? digits with
  | some found => if found.rest.head? == some '0' then none else some found.rest
  | none => none

/-- How the length of national digits compares with the lengths of the numbers of a region. -/
inductive LengthCheck where
  | possible
  | localOnly
  | tooShort
  | tooLong
  | invalid
  deriving DecidableEq, Repr, Inhabited

/-- `checkLength region digits` compares the length of `digits` with those of the region. -/
def checkLength (region : Region) (digits : List Char) : LengthCheck :=
  let length := digits.length
  let lengths := region.general.lengths
  if region.general.localLengths.contains length then .localOnly
  else if lengths.contains length then .possible
  else if length < lengths.head?.getD 0 then .tooShort
  else if lengths.getLast?.getD 0 < length then .tooLong
  else .invalid

/-- `callingCodeIn? plan digits` is the calling code of the fewest, and at most three, digits that
`digits` begins with, and the digits behind it. -/
def callingCodeIn? (plan : NumberingPlan) (digits : List Char) : Option (Nat × List Char) :=
  if digits.head? == some '0' then none
  else
    [1, 2, 3].findSome? fun count ↦
      if digits.length < count then none
      else match Text.asciiNumber? (digits.take count) with
        | some code => if plan.isCallingCode code then some (code, digits.drop count) else none
        | none => none

/-- What `extractCallingCode` finds: where the calling code came from, the code, unless it is that
of the default country, and the digits behind it. -/
structure Extraction where
  source : CodeSource
  code : Option Nat
  rest : List Char
  deriving DecidableEq, Repr, Inhabited

/-- `codeAfterPrefix plan source digits` separates the calling code that must follow a plus sign or
an international prefix. -/
def codeAfterPrefix (plan : NumberingPlan) (source : CodeSource) (digits : List Char) :
    Except ParseError Extraction :=
  if digits.length ≤ 2 then .error .tooShortAfterPrefix
  else match callingCodeIn? plan digits with
    | some (code, rest) => .ok ⟨source, some code, rest⟩
    | none => .error .unknownCallingCode

/-- `codeWithoutPlus? region digits` separates the calling code of the default region when the
digits begin with it and only fit the region without it. -/
def codeWithoutPlus? (region : Region) (digits : List Char) : Option (List Char) :=
  let code := Nat.toDigits 10 region.callingCode
  if code.isPrefixOf digits then
    let national := stripNationalPrefix region (digits.drop code.length)
    let fits := region.general.pattern.matchesAll
    if (!fits digits && fits national) || checkLength region digits == .tooLong then some national
    else none
  else none

/-- `extractCallingCode plan region cs` separates the calling code of a number, if it has its own.
-/
def extractCallingCode (plan : NumberingPlan) (region : Option Region) (cs : List Char) :
    Except ParseError Extraction :=
  if startsWithPlus cs then codeAfterPrefix plan .plusSign (normalize (cs.dropWhile isPlus))
  else
    let digits := normalize cs
    match stripInternationalPrefix? region digits with
    | some rest => codeAfterPrefix plan .internationalPrefix rest
    | none =>
        match region.bind fun region ↦
          (codeWithoutPlus? region digits).map (region.callingCode, ·) with
        | some (code, rest) => .ok ⟨.withoutPlusSign, some code, rest⟩
        | none => .ok ⟨.defaultCountry, none, []⟩

end AssistedDialing.Dialled
