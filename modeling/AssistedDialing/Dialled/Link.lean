import AssistedDialing.Dialled.Candidate
import AssistedDialing.Dialled.Error
import AssistedDialing.Text.Search

/-!
# Telephone links

A telephone link such as `tel:253-0000;phone-context=+1` names the context of a local number: a
calling code with leading digits, or a domain. `dialled` is the number that a text asks to dial,
which for a text that is no such link is the candidate in it. A subaddress behind `;isub=` is left
out.
-/

namespace AssistedDialing.Dialled

open Text

/-- `isNumberContext cs` holds when `cs` is a plus sign with digits, among which visual separators
may stand. -/
def isNumberContext : List Char → Bool
  | '+' :: cs =>
      cs.all (fun c ↦ isDecimal c || c == '-' || c == '.' || c == '(' || c == ')') &&
        cs.any isDecimal
  | _ => false

/-- `isLabelChar c` holds for the letters and digits of a domain label. -/
def isLabelChar (c : Char) : Bool :=
  isAsciiLetter c || isDecimal c

/-- `isDomainLabel cs` holds when `cs` is letters, digits and inner hyphens. -/
def isDomainLabel (cs : List Char) : Bool :=
  cs.head?.any isLabelChar && cs.getLast?.any isLabelChar &&
    cs.all fun c ↦ isLabelChar c || c == '-'

/-- `isTopLabel cs` holds when `cs` is a domain label that starts with a letter. -/
def isTopLabel (cs : List Char) : Bool :=
  isDomainLabel cs && cs.head?.any isAsciiLetter

/-- `withoutFinalDot cs` drops a dot at the end of `cs`. -/
def withoutFinalDot (cs : List Char) : List Char :=
  if cs.getLast? == some '.' then cs.dropLast else cs

/-- `isDomain cs` holds when `cs` is a domain name, which may end in a dot. -/
def isDomain (cs : List Char) : Bool :=
  let labels := (withoutFinalDot cs).splitOn '.'
  labels.all isDomainLabel && labels.getLast?.any isTopLabel

/-- `isContext cs` holds when `cs` is a valid context. -/
def isContext (cs : List Char) : Bool :=
  isNumberContext cs || isDomain cs

/-- `localPart cs before` is the part of `before` behind the first `tel:` of the whole text `cs`. -/
def localPart (cs before : List Char) : List Char :=
  match splitAtFirst "tel:".toList cs with
  | some (scheme, _) => before.drop (scheme.length + 4)
  | none => before

/-- `withoutSubaddress cs` is what stands before the first `;isub=`, unless that is nothing. -/
def withoutSubaddress (cs : List Char) : List Char :=
  match splitAtFirst ";isub=".toList cs with
  | some (before, _) => if before.isEmpty then cs else before
  | none => cs

/-- `dialled cs` is the number that the text `cs` asks to dial. -/
def dialled (cs : List Char) : Except ParseError (List Char) :=
  match splitAtFirst ";phone-context=".toList cs with
  | none => .ok (withoutSubaddress (candidate cs))
  | some (before, behind) =>
      let context := behind.takeWhile (· != ';')
      if isContext context then
        let lead := if context.head? == some '+' then context else []
        .ok (withoutSubaddress (lead ++ localPart cs before))
      else .error .invalidContext

end AssistedDialing.Dialled
