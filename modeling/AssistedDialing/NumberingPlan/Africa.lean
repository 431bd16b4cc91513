import AssistedDialing.NumberingPlan.Basic

/-!
# The region of calling code 211
-/

namespace AssistedDialing.NumberingPlan.Africa

open Pattern

/-- The fixed-line numbers of South Sudan. -/
def southSudanFixedLine : NumberRange where
  pattern := lit "1" ++ among "89" ++ digits 7
  lengths := [9]

/-- The mobile numbers of South Sudan. -/
def southSudanMobile : NumberRange where
  pattern := (lit "12" ||| lit "9" ++ among "125789") ++ digits 7
  lengths := [9]

/-- South Sudan. -/
def southSudan : Region where
  id := "SS"
  callingCode := 211
  internationalPrefix := some <| lit "00"
  nationalPrefix := some <| lit "0"
  general := {
    pattern := among "19" ++ digits 8
    lengths := [9] }
  services := [(.fixedLine, southSudanFixedLine), (.mobile, southSudanMobile)]

/-- The regions of calling code 211. -/
def regions : List Region :=
  [southSudan]

end AssistedDialing.NumberingPlan.Africa
