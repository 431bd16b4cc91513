import AssistedDialing.NumberingPlan.Basic

/-!
# The regions of calling codes 52 and 55
-/

namespace AssistedDialing.NumberingPlan.LatinAmerica

open Pattern

/-- The premium-rate numbers of Brazil. -/
def brazilPremiumRate : NumberRange where
  pattern := among "59" ++ lit "00" ++ between 6 7 digit
  lengths := [9, 10]

/-- The toll-free numbers of Brazil. -/
def brazilTollFree : NumberRange where
  pattern := lit "800" ++ between 6 7 digit
  lengths := [9, 10]

/-- The numbers at shared cost of Brazil. -/
def brazilSharedCost : NumberRange where
  pattern := (lit "30" ++ among "03" ++ digits 3 ||| lit "4" ++ (lit "0" ++ (lit "0" ++ digit |||
    lit "20") ||| lit "370" ||| lit "864")) ++ digits 4 ||| lit "300" ++ digits 5
  lengths := [8, 10]

/-- The fixed-line numbers of Brazil. -/
def brazilFixedLine : NumberRange where
  pattern := (among "14689" ++ among "123456789" ||| lit "2" ++ among "12478" ||| lit "3" ++
    among "1234578" ||| lit "5" ++ among "1345" ||| lit "7" ++ among "134579") ++ among "2345" ++
    digits 7
  lengths := [10]
  localLengths := [8]

/-- The mobile numbers of Brazil. -/
def brazilMobile : NumberRange where
  pattern := (among "14689" ++ among "123456789" ||| lit "2" ++ among "12478" ||| lit "3" ++
    among "1234578" ||| lit "5" ++ among "1345" ||| lit "7" ++ among "134579") ++ (lit "7" |||
    lit "9" ++ digit) ++ digits 7
  lengths := [10, 11]
  localLengths := [8, 9]

/-- Brazil. -/
def brazil : Region where
  id := "BR"
  callingCode := 55
  internationalPrefix := some <| lit "00" ++ (lit "1" ++ among "245" ||| lit "2" ++ among "1235" |||
    lit "31" ||| lit "4" ++ among "13" ||| among "56" ++ lit "5" ||| lit "99")
  nationalPrefix := some <| (lit "0" ||| lit "90") ++ optional (group 1 (lit "1" ++ among "245" |||
    lit "2" ++ among "1235" ||| lit "31" ||| lit "4" ++ among "13" ||| among "56" ++ lit "5" |||
    lit "99") ++ group 2 (between 10 11 digit))
  prefixRule := some ⟨"", 2⟩
  general := {
    pattern := among "123467" ++ between 9 10 digit ||| lit "55" ++ among "012346789" ++
      digits 8 ||| among "34" ++ digits 7 ||| lit "55" ++ between 7 8 digit ||| (lit "5" ++
      among "012346789" ||| among "89" ++ digit) ++ between 7 9 digit
    lengths := [8, 9, 10, 11] }
  services := [(.premiumRate, brazilPremiumRate), (.tollFree, brazilTollFree),
    (.sharedCost, brazilSharedCost), (.fixedLine, brazilFixedLine), (.mobile, brazilMobile)]

/-- The premium-rate numbers of Mexico. -/
def mexicoPremiumRate : NumberRange where
  pattern := lit "900" ++ digits 7
  lengths := [10]

/-- The toll-free numbers of Mexico. -/
def mexicoTollFree : NumberRange where
  pattern := lit "8" ++ (lit "00" ||| lit "88") ++ digits 7
  lengths := [10]

/-- The numbers at shared cost of Mexico. -/
def mexicoSharedCost : NumberRange where
  pattern := lit "300" ++ digits 7
  lengths := [10]

/-- The personal numbers of Mexico. -/
def mexicoPersonal : NumberRange where
  pattern := lit "500" ++ digits 7
  lengths := [10]

/-- The fixed-line numbers of Mexico. -/
def mexicoFixedLine : NumberRange where
  pattern := (lit "2" ++ (lit "0" ++ among "01" ||| lit "2" ++ digit ||| lit "3" ++
    among "1235678" ||| lit "4" ++ among "13456789" ||| lit "7" ++ among "12345689" ||| lit "8" ++
    among "1234578" ||| lit "9" ++ among "467") ||| lit "3" ++ (lit "1" ++ among "12345679" |||
    among "2458" ++ among "123456789" ||| lit "3" ++ digit ||| lit "7" ++ among "12345678" |||
    lit "9" ++ among "12345") ||| lit "4" ++ (lit "1" ++ among "12345789" ||| among "267" ++
    among "123456789" ||| lit "3" ++ among "12345678" ||| among "45" ++ digit ||| lit "8" ++
    among "12356789" ||| lit "9" ++ among "2345689") ||| lit "5" ++ (among "56" ++ digit |||
    lit "88" ||| lit "9" ++ among "12345679") ||| lit "6" ++ (lit "1" ++ among "234568" |||
    among "234" ++ among "123456789" ||| lit "5" ++ among "1236789" ||| lit "6" ++
    among "012345789" ||| lit "7" ++ among "1234567" ||| lit "8" ++ among "67" ||| lit "9" ++
    among "45678") ||| lit "7" ++ (among "1346" ++ among "123456789" ||| among "27" ++ digit |||
    lit "5" ++ among "13456789" ||| lit "8" ++ among "1234569" ||| lit "9" ++ among "17") |||
    lit "8" ++ (lit "1" ++ digit ||| lit "2" ++ among "1345689" ||| lit "3" ++ among "123456" |||
    lit "4" ++ among "12456" ||| lit "6" ++ among "1246789" ||| lit "7" ++ among "012378" |||
    lit "9" ++ among "12479") ||| lit "9" ++ (lit "1" ++ among "346789" ||| lit "2" ++
    among "1234" ||| lit "3" ++ among "234678" ||| lit "5" ++ among "1348" ||| among "69" ++
    digit ||| lit "7" ++ among "12" ||| lit "8" ++ among "12345678")) ++ digits 7
  lengths := [10]
  localLengths := [7, 8]

/-- The mobile numbers of Mexico. -/
def mexicoMobile : NumberRange where
  pattern := (lit "2" ++ (lit "2" ++ digit ||| lit "3" ++ among "1235678" ||| lit "4" ++
    among "13456789" ||| lit "7" ++ among "12345689" ||| lit "8" ++ among "1234578" ||| lit "9" ++
    among "467") ||| lit "3" ++ (lit "1" ++ among "12345679" ||| among "2458" ++
    among "123456789" ||| lit "3" ++ digit ||| lit "7" ++ among "12345678" ||| lit "9" ++
    among "12345") ||| lit "4" ++ (lit "1" ++ among "12345789" ||| among "267" ++
    among "123456789" ||| lit "3" ++ among "12345678" ||| among "45" ++ digit ||| lit "8" ++
    among "12356789" ||| lit "9" ++ among "2345689") ||| lit "5" ++ (among "56" ++ digit |||
    lit "88" ||| lit "9" ++ among "12345679") ||| lit "6" ++ (lit "1" ++ among "234568" |||
    among "234" ++ among "123456789" ||| lit "5" ++ among "1236789" ||| lit "6" ++
    among "012345789" ||| lit "7" ++ among "1234567" ||| lit "8" ++ among "67" ||| lit "9" ++
    among "45678") ||| lit "7" ++ (among "1346" ++ among "123456789" ||| among "27" ++ digit |||
    lit "5" ++ among "13456789" ||| lit "8" ++ among "1234569" ||| lit "9" ++ among "17") |||
    lit "8" ++ (lit "1" ++ digit ||| lit "2" ++ among "1345689" ||| lit "3" ++ among "123456" |||
    lit "4" ++ among "12456" ||| lit "6" ++ among "1246789" ||| lit "7" ++ among "012378" |||
    lit "9" ++ among "12479") ||| lit "9" ++ (lit "1" ++ among "346789" ||| lit "2" ++
    among "1234" ||| lit "3" ++ among "234678" ||| lit "5" ++ among "1348" ||| among "69" ++
    digit ||| lit "7" ++ among "12" ||| lit "8" ++ among "12345678")) ++ digits 7
  lengths := [10]
  localLengths := [7, 8]

/-- Mexico. -/
def mexico : Region where
  id := "MX"
  callingCode := 52
  internationalPrefix := some <| lit "0" ++ among "09"
  general := {
    pattern := among "23456789" ++ digits 9
    lengths := [10]
    localLengths := [7, 8] }
  services := [(.premiumRate, mexicoPremiumRate), (.tollFree, mexicoTollFree),
    (.sharedCost, mexicoSharedCost), (.personal, mexicoPersonal), (.fixedLine, mexicoFixedLine),
    (.mobile, mexicoMobile)]

/-- The regions of calling codes 55 and 52. -/
def regions : List Region :=
  [brazil, mexico]

end AssistedDialing.NumberingPlan.LatinAmerica
