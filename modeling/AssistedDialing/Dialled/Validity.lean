import AssistedDialing.NumberingPlan.Basic
import AssistedDialing.PhoneNumber.Basic
import AssistedDialing.Dialled.Candidate
import AssistedDialing.Dialled.Keypad

/-!
# Valid numbers and emergency numbers

A phone number is valid when the numbering plan assigns it in the region that it belongs to. A text
is an emergency number of a region when the digits in it are one, unless it begins with a plus sign.
-/

namespace AssistedDialing.NumberingPlan

open Dialled

/-- `plan.isValid number` holds when `number` is assigned in the region that it belongs to. -/
def isValid (plan : NumberingPlan) (number : PhoneNumber) : Bool :=
  match number.callingCode with
  | none => false
  | some code =>
      match plan.regionOf? code number.nationalDigits with
      | some region => region.isAssigned number.nationalDigits
      | none => false

/-- `plan.isEmergencyText raw region` holds when the text `raw` is an emergency number of `region`.
-/
def isEmergencyText (plan : NumberingPlan) (raw region : String) : Bool :=
  let cs := candidate raw.toList
  !startsWithPlus cs && plan.isEmergency region (digitsOnly cs)

end AssistedDialing.NumberingPlan
