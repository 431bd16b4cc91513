import AssistedDialing.NumberingPlan.Basic

/-!
# The regions of calling code 61
-/

namespace AssistedDialing.NumberingPlan.Australasia

open Pattern

/-- The numbers that several regions use alike for premium-rate calls. -/
def sharedPremiumRate : NumberRange where
  pattern := lit "190" ++ among "0126" ++ digits 6
  lengths := [10]

/-- The numbers that several regions use alike for toll-free calls. -/
def sharedTollFree : NumberRange where
  pattern := lit "180" ++ (lit "0" ++ digits 3 ||| lit "2") ++ digits 3
  lengths := [7, 10]

/-- The numbers that several regions use alike for calls at shared cost. -/
def sharedSharedCost : NumberRange where
  pattern := lit "13" ++ (lit "00" ++ digits 6 ++ optional (digits 2) ||| lit "45" ++
    among "01234" ++ digits 3) ||| lit "13" ++ digits 4
  lengths := [6, 8, 10, 12]

/-- The numbers that several regions use alike for internet telephony. -/
def sharedVoip : NumberRange where
  pattern := lit "14" ++ (lit "5" ++ (lit "1" ++ among "0458" ||| among "23" ++ among "458") |||
    lit "71" ++ digit) ++ digits 4
  lengths := [9]

/-- The numbers that several regions use alike for mobile phones. -/
def sharedMobile : NumberRange where
  pattern := lit "4" ++ (lit "79" ++ among "01" ||| lit "83" ++ among "01236789" ||| lit "9" ++
    (lit "5" ++ among "0123" ||| lit "6" ++ among "01234")) ++ digits 5 ||| lit "4" ++
    (among "01236" ++ digit ||| lit "4" ++ among "04789" ||| among "58" ++ among "012456789" |||
    lit "7" ++ among "02345678" ||| lit "9" ++ among "01234789") ++ digits 6
  lengths := [9]

/-- The pager numbers of Australia. -/
def australiaPager : NumberRange where
  pattern := lit "163" ++ between 2 6 digit
  lengths := [5, 6, 7, 8, 9]

/-- The fixed-line numbers of Australia. -/
def australiaFixedLine : NumberRange where
  pattern := ((lit "241" ||| lit "349") ++ lit "0" ++ digits 2 ||| lit "8" ++ (lit "51" ++
    (lit "0" ++ (lit "0" ++ among "03456789" ||| among "12479" ++ digit ||| lit "3" ++
    among "23456789" ||| lit "5" ++ among "012345678" ||| lit "6" ++ among "123456789" |||
    lit "8" ++ among "01234567") ||| lit "1" ++ (among "0235689" ++ digit ||| lit "1" ++
    among "01234569" ||| lit "4" ++ among "01234589" ||| lit "7" ++ among "01234789") |||
    lit "2" ++ (lit "0" ++ among "012345679" ||| among "18" ++ among "13579" ||| lit "2" ++
    among "1456789" ||| lit "3" ++ among "012346789" ||| among "456" ++ digit ||| lit "7" ++
    among "89" ||| lit "9" ++ among "01234") ||| among "34" ++ digits 2) ||| lit "91" ++
    ((among "0123458" ++ digit ||| lit "6" ++ among "01356789") ++ digit ||| lit "7" ++ (lit "0" ++
    among "012456789" ||| among "123456789" ++ digit) ||| lit "9" ++ (among "012346789" ++ digit |||
    lit "5" ++ among "012345679")))) ++ digits 3 ||| (lit "2" ++ (among "0126789" ++ digit |||
    lit "3" ++ among "012345678" ||| lit "4" ++ among "023456789" ||| lit "5" ++
    among "01356789") ||| lit "3" ++ (among "0123589" ++ digit ||| lit "4" ++ among "01234578" |||
    lit "6" ++ among "123456789" ||| lit "7" ++ among "012356789") ||| lit "7" ++
    (among "01345789" ++ digit ||| lit "2" ++ among "012345678") ||| lit "8" ++ (lit "55" |||
    lit "6" ++ among "012345678" ||| among "78" ++ digit ||| lit "9" ++ among "023456789")) ++
    digits 6
  lengths := [9]
  localLengths := [8]

/-- Australia. -/
def australia : Region where
  id := "AU"
  callingCode := 61
  internationalPrefix := some <| lit "001" ++ among "145689" ||| lit "14" ++ (lit "1" ++
    among "14" ||| lit "34" ||| lit "4" ++ among "17" ||| among "56" ++ lit "6" ||| lit "7" ++
    among "47" ||| lit "88") ++ lit "0011"
  nationalPrefix := some <| group 1 (lit "183" ++ among "12") ||| lit "0"
  general := {
    pattern := lit "1" ++ (among "012345679" ++ digits 7 ++ optional (digit ++
      optional (digits 2)) ||| lit "8" ++ among "012456789" ++ digits 7) ||| among "23478" ++
      digits 8 ||| lit "1" ++ between 4 7 digit
    lengths := [5, 6, 7, 8, 9, 10, 12] }
  services := [(.premiumRate, sharedPremiumRate), (.tollFree, sharedTollFree),
    (.sharedCost, sharedSharedCost), (.voip, sharedVoip), (.pager, australiaPager),
    (.fixedLine, australiaFixedLine), (.mobile, sharedMobile)]

/-- The fixed-line numbers of Cocos Islands. -/
def cocosIslandsFixedLine : NumberRange where
  pattern := lit "8" ++ (lit "51" ++ (lit "0" ++ (lit "02" ||| lit "31" ||| lit "60" |||
    lit "89") ||| lit "1" ++ (lit "18" ||| lit "76") ||| lit "223") ||| lit "91" ++ (lit "0" ++
    (lit "1" ++ among "012" ||| lit "29") ||| lit "1" ++ (among "28" ++ lit "2" ||| lit "50" |||
    lit "79") ||| lit "2" ++ (lit "10" ||| lit "64") ||| lit "3" ++ (among "06" ++ lit "8" |||
    lit "22") ||| lit "4" ++ among "29" ++ lit "8" ||| lit "62" ++ digit ||| lit "70" ++
    among "23" ||| lit "959")) ++ digits 3
  lengths := [9]
  localLengths := [8]

/-- Cocos Islands. -/
def cocosIslands : Region where
  id := "CC"
  callingCode := 61
  internationalPrefix := some <| lit "001" ++ among "145689" ||| lit "14" ++ (lit "1" ++
    among "14" ||| lit "34" ||| lit "4" ++ among "17" ||| among "56" ++ lit "6" ||| lit "7" ++
    among "47" ||| lit "88") ++ lit "0011"
  nationalPrefix := some <| group 1 (among "59" ++ digits 7) ++ atEnd ||| lit "0"
  prefixRule := some ⟨"8", 1⟩
  general := {
    pattern := lit "1" ++ (among "012345679" ++ digits 8 ++ optional (digits 2) ||| lit "8" ++
      among "012456789" ++ digits 7) ||| among "148" ++ digits 8 ||| lit "1" ++
      between 5 7 digit
    lengths := [6, 7, 8, 9, 10, 12] }
  services := [(.premiumRate, sharedPremiumRate), (.tollFree, sharedTollFree),
    (.sharedCost, sharedSharedCost), (.voip, sharedVoip), (.fixedLine, cocosIslandsFixedLine),
    (.mobile, sharedMobile)]

/-- The fixed-line numbers of Christmas Island. -/
def christmasIslandFixedLine : NumberRange where
  pattern := lit "8" ++ (lit "51" ++ (lit "0" ++ (lit "01" ||| lit "30" ||| lit "59" |||
    lit "88") ||| lit "1" ++ (lit "17" ||| lit "46" ||| lit "75") ||| lit "2" ++ (lit "22" |||
    lit "35")) ||| lit "91" ++ (lit "00" ++ among "6789" ||| lit "1" ++ (among "28" ++ lit "1" |||
    lit "49" ||| lit "78") ||| lit "2" ++ (lit "09" ||| lit "63") ||| lit "3" ++ (lit "12" |||
    lit "26" ||| lit "75") ||| lit "4" ++ (lit "56" ||| lit "97") ||| lit "64" ++ digit |||
    lit "7" ++ (lit "0" ++ among "01" ||| lit "1" ++ among "012") ||| lit "958")) ++ digits 3
  lengths := [9]
  localLengths := [8]

/-- Christmas Island. -/
def christmasIsland : Region where
  id := "CX"
  callingCode := 61
  internationalPrefix := some <| lit "001" ++ among "145689" ||| lit "14" ++ (lit "1" ++
    among "14" ||| lit "34" ||| lit "4" ++ among "17" ||| among "56" ++ lit "6" ||| lit "7" ++
    among "47" ||| lit "88") ++ lit "0011"
  nationalPrefix := some <| group 1 (among "59" ++ digits 7) ++ atEnd ||| lit "0"
  prefixRule := some ⟨"8", 1⟩
  general := {
    pattern := lit "1" ++ (among "012345679" ++ digits 8 ++ optional (digits 2) ||| lit "8" ++
      among "012456789" ++ digits 7) ||| among "148" ++ digits 8 ||| lit "1" ++
      between 5 7 digit
    lengths := [6, 7, 8, 9, 10, 12] }
  services := [(.premiumRate, sharedPremiumRate), (.tollFree, sharedTollFree),
    (.sharedCost, sharedSharedCost), (.voip, sharedVoip), (.fixedLine, christmasIslandFixedLine),
    (.mobile, sharedMobile)]

/-- The regions of calling code 61 in the order in which they are searched. -/
def regions : List Region :=
  [australia, cocosIslands, christmasIsland]

end AssistedDialing.NumberingPlan.Australasia
