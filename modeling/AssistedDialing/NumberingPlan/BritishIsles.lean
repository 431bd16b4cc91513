import AssistedDialing.NumberingPlan.Basic

/-!
# The regions of calling code 44
-/

namespace AssistedDialing.NumberingPlan.BritishIsles

open Pattern

/-- The numbers that several regions use alike for toll-free calls. -/
def sharedTollFree : NumberRange where
  pattern := lit "80" ++ among "08" ++ digits 7 ||| lit "800" ++ digits 6 ||| lit "8001111"
  lengths := [7, 9, 10]

/-- The numbers that several regions use alike for internet telephony. -/
def sharedVoip : NumberRange where
  pattern := lit "56" ++ digits 8
  lengths := [10]

/-- The numbers that several regions use alike for personal numbers. -/
def sharedPersonal : NumberRange where
  pattern := lit "70" ++ digits 8
  lengths := [10]

/-- The numbers that several regions use alike for pagers. -/
def sharedPager : NumberRange where
  pattern := lit "76" ++ (lit "464" ||| lit "652") ++ digits 5 ||| lit "76" ++ (lit "0" ++
    among "0128" ||| lit "2" ++ among "356" ||| lit "34" ||| lit "4" ++ among "01347" |||
    lit "5" ++ among "49" ||| lit "6" ++ among "012369" ||| lit "77" ||| lit "8" ++ among "14" |||
    lit "9" ++ among "139") ++ digits 6
  lengths := [10]

/-- The numbers that several regions use alike for companies. -/
def sharedUniversalAccess : NumberRange where
  pattern := (lit "3" ++ among "0347" ||| lit "55") ++ digits 8
  lengths := [10]

/-- The premium-rate numbers of United Kingdom. -/
def unitedKingdomPremiumRate : NumberRange where
  pattern := (lit "8" ++ (lit "4" ++ among "2345" ||| lit "7" ++ among "0123") ||| lit "9" ++
    (among "01" ++ digit ||| lit "8" ++ among "2349")) ++ digits 7 ||| lit "845464" ++ digit
  lengths := [7, 10]

/-- The fixed-line numbers of United Kingdom. -/
def unitedKingdomFixedLine : NumberRange where
  pattern := (lit "1" ++ (lit "1" ++ (lit "3" ++ (among "0123458" ++ digits 2 ||| lit "73" ++
    among "012345") ||| lit "4" ++ ((among "012345" ++ digit ||| lit "70") ++ digit ||| lit "69" ++
    among "789") ||| ((lit "5" ++ among "0126789" ||| among "78" ++ among "012349") ++ digit |||
    lit "6" ++ (among "01234" ++ digit ||| lit "5" ++ among "01")) ++ digit) ||| (lit "2" ++
    ((lit "0" ++ among "02456789" ||| lit "2" ++ among "3456789" ||| lit "3" ++ among "345679" |||
    lit "4" ++ among "12345689" ||| among "58" ++ among "023456789" ||| lit "6" ++
    among "01234789" ||| lit "7" ++ among "013456789" ||| lit "9" ++ digit) ++ digit ||| lit "1" ++
    (among "01234567" ++ digit ||| lit "8" ++ among "0123")) ||| (lit "3" ++ (lit "0" ++ digit |||
    lit "1" ++ among "012345678" ||| among "25" ++ among "023456789" ||| lit "3" ++
    among "0234579" ||| among "468" ++ among "012346789" ||| lit "7" ++ among "1235679" |||
    lit "9" ++ among "234578") ||| lit "4" ++ (lit "0" ++ among "03456789" ||| among "137" ++
    digit ||| among "28" ++ among "02345789" ||| lit "4" ++ among "0234569" ||| lit "5" ++
    among "012345678" ||| among "69" ++ among "012345679") ||| lit "5" ++ (lit "0" ++
    among "12356789" ||| among "16" ++ digit ||| lit "2" ++ among "02456789" ||| lit "3" ++
    among "015689" ||| lit "4" ++ among "023456789" ||| lit "5" ++ among "03456789" ||| lit "7" ++
    among "012356789" ||| lit "8" ++ among "0123468" ||| lit "9" ++ among "012345789") |||
    lit "6" ++ (lit "0" ++ among "034689" ||| lit "1" ++ digit ||| lit "2" ++ among "01235689" |||
    among "38" ++ among "013456789" ||| lit "4" ++ among "123467" ||| lit "5" ++
    among "01234569" ||| lit "6" ++ among "13456789" ||| lit "7" ++ among "012345678" |||
    lit "9" ++ among "0124578") ||| lit "7" ++ (lit "0" ++ among "0246789" ||| lit "2" ++ digit |||
    lit "3" ++ among "023678" ||| lit "4" ++ among "03456789" ||| lit "5" ++ among "012346789" |||
    lit "6" ++ among "013456789" ||| lit "7" ++ among "012356789" ||| lit "8" ++
    among "02456789" ||| lit "9" ++ among "023456789") ||| lit "8" ++ (lit "0" ++ among "356789" |||
    lit "2" ++ among "12345789" ||| lit "3" ++ among "0234578" ||| lit "4" ++ among "01234578" |||
    lit "5" ++ among "12456789" ||| lit "6" ++ among "234569" ||| lit "7" ++ digit ||| lit "8" ++
    among "023456789" ||| lit "9" ++ among "02569") ||| lit "9" ++ (lit "0" ++ among "0234589" |||
    among "18" ++ digit ||| lit "2" ++ among "02345689" ||| lit "3" ++ among "12345789" |||
    lit "4" ++ among "23456789" ||| lit "5" ++ among "01234579" ||| lit "6" ++ among "234789" |||
    lit "7" ++ among "0124578" ||| lit "9" ++ among "23457")) ++ digit) ++ digit) ||| lit "2" ++
    (lit "0" ++ among "013478" ||| lit "3" ++ among "0189" ||| lit "4" ++ among "017" |||
    lit "8" ++ among "012346789" ||| lit "9" ++ among "012") ++ digits 3) ++ digits 4 |||
    lit "1" ++ (lit "2" ++ (lit "0" ++ (lit "46" ++ among "1234" ||| lit "87" ++
    among "23456789") ||| lit "545" ++ among "12345679" ||| lit "76" ++ (lit "2" ++ digit |||
    lit "3" ++ among "12345678" ||| lit "6" ++ among "123456") ||| lit "9" ++ (lit "7" ++
    (lit "2" ++ among "01234" ||| lit "3" ++ among "2345") ||| lit "8" ++ (lit "2" ++
    among "2345678" ||| lit "7" ++ among "01234789" ||| lit "8" ++ among "345"))) ||| lit "3" ++
    (lit "6" ++ (lit "38" ++ among "2345" ||| lit "47" ++ among "23") ||| lit "8" ++ (lit "47" ++
    among "0456789" ||| lit "64" ++ among "015789")) ||| lit "4" ++ (lit "044" ++
    among "1234567" ||| lit "20" ++ (lit "2" ++ among "23" ||| lit "8" ++ digit) ||| lit "6" ++
    (lit "0" ++ (lit "30" ||| lit "5" ++ among "23457" ||| lit "6" ++ among "12345678" |||
    lit "7" ++ among "2345678") ||| lit "140") ||| lit "8" ++ (lit "052" ||| lit "87" ++
    among "123")) ||| lit "5" ++ (lit "2" ++ (lit "4" ++ (lit "3" ++ among "2345679" ||| lit "6" ++
    digit) ||| lit "76" ++ digit) ||| lit "6" ++ (lit "26" ++ among "06789" ||| lit "686")) |||
    lit "6" ++ (lit "06" ++ (lit "4" ++ digit ||| lit "7" ++ among "45679") ||| lit "295" ++
    among "567" ||| lit "35" ++ among "34" ++ digit ||| lit "47" ++ (lit "24" ||| lit "61") |||
    lit "59" ++ (lit "5" ++ among "08" ||| lit "6" ++ among "67" ||| lit "74") ||| lit "9" ++
    (lit "55" ++ among "01234" ||| lit "77" ++ among "23")) ||| lit "7" ++ (lit "26" ++ (lit "6" ++
    among "13456789" ||| lit "7" ++ among "01234567") ||| (lit "442" ||| lit "688") ++ digit |||
    lit "50" ++ (lit "2" ++ among "0123" ||| among "34568" ++ lit "2" ||| lit "76")) ||| lit "8" ++
    (lit "27" ++ among "56" ++ digit ||| lit "37" ++ (lit "5" ++ among "2345" ||| lit "8" ++
    among "239") ||| lit "843" ++ among "23458") ||| lit "9" ++ (lit "0" ++ (lit "0" ++ (lit "6" ++
    among "12345678" ||| lit "85") ||| lit "52" ++ digit) ||| lit "3583" ||| lit "4" ++
    (lit "66" ++ among "12345678" ||| lit "9" ++ (lit "2" ++ among "01" ||| lit "81")) |||
    lit "63" ++ (lit "23" ||| lit "3" ++ among "1234") ||| lit "9561")) ++ digits 3
  lengths := [9, 10]
  localLengths := [4, 5, 6, 7, 8]

/-- The mobile numbers of United Kingdom. -/
def unitedKingdomMobile : NumberRange where
  pattern := lit "7" ++ (lit "457" ++ among "012345789" ||| lit "700" ++ among "01" |||
    lit "911" ++ among "028") ++ digits 5 ||| lit "7" ++ (among "123" ++ digits 2 ||| lit "4" ++
    (among "012346789" ++ digit ||| lit "5" ++ among "012345689") ||| lit "5" ++ (lit "0" ++
    among "012345678" ||| among "13456789" ++ digit ||| lit "2" ++ among "012356789") |||
    lit "7" ++ (lit "0" ++ among "123456789" ||| among "1234567" ++ digit ||| lit "8" ++
    among "023456789" ||| lit "9" ++ among "012345689") ||| lit "8" ++ (among "01456789" ++
    digit ||| among "23" ++ among "012345678") ||| lit "9" ++ (among "02456789" ++ digit |||
    lit "1" ++ among "023456789" ||| lit "3" ++ among "012345689")) ++ digits 6
  lengths := [10]

/-- United Kingdom. -/
def unitedKingdom : Region where
  id := "GB"
  callingCode := 44
  internationalPrefix := some <| lit "00"
  nationalPrefix := some <| lit "0" ||| lit "180020"
  general := {
    pattern := among "1235789" ++ digits 9 ||| among "18" ++ digits 8 ||| lit "8" ++ digits 6
    lengths := [7, 9, 10]
    localLengths := [4, 5, 6, 8] }
  services := [(.premiumRate, unitedKingdomPremiumRate), (.tollFree, sharedTollFree),
    (.voip, sharedVoip), (.personal, sharedPersonal), (.pager, sharedPager),
    (.universalAccess, sharedUniversalAccess), (.fixedLine, unitedKingdomFixedLine),
    (.mobile, unitedKingdomMobile)]

/-- The premium-rate numbers of Guernsey. -/
def guernseyPremiumRate : NumberRange where
  pattern := (lit "8" ++ (lit "4" ++ among "2345" ||| lit "7" ++ among "0123") ||| lit "9" ++
    (among "01" ++ digit ||| lit "8" ++ among "0123")) ++ digits 7 ||| lit "845464" ++ digit
  lengths := [7, 10]

/-- The fixed-line numbers of Guernsey. -/
def guernseyFixedLine : NumberRange where
  pattern := lit "1481" ++ among "256789" ++ digits 5
  lengths := [10]
  localLengths := [6]

/-- The mobile numbers of Guernsey. -/
def guernseyMobile : NumberRange where
  pattern := lit "7" ++ ((lit "781" ||| lit "839") ++ digit ||| lit "911" ++ among "17") ++
    digits 5
  lengths := [10]

/-- Guernsey. -/
def guernsey : Region where
  id := "GG"
  callingCode := 44
  internationalPrefix := some <| lit "00"
  nationalPrefix := some <| group 1 (among "256789" ++ digits 5) ++ atEnd ||| lit "0" |||
    lit "180020"
  prefixRule := some ⟨"1481", 1⟩
  general := {
    pattern := (lit "1481" ||| among "35789" ++ digits 3) ++ digits 6 ||| lit "8" ++ digits 6 ++
      optional (digits 2)
    lengths := [7, 9, 10]
    localLengths := [6] }
  services := [(.premiumRate, guernseyPremiumRate), (.tollFree, sharedTollFree),
    (.voip, sharedVoip), (.personal, sharedPersonal), (.pager, sharedPager),
    (.universalAccess, sharedUniversalAccess), (.fixedLine, guernseyFixedLine),
    (.mobile, guernseyMobile)]

/-- The premium-rate numbers of Isle of Man. -/
def isleOfManPremiumRate : NumberRange where
  pattern := lit "8" ++ (lit "440" ++ among "49" ++ lit "06" ||| lit "72299" ++ digit) ++
    digits 3 ||| (lit "8" ++ (lit "45" ||| lit "70") ||| lit "90" ++ among "0167") ++ lit "624" ++
    digits 4
  lengths := [10]

/-- The toll-free numbers of Isle of Man. -/
def isleOfManTollFree : NumberRange where
  pattern := lit "808162" ++ digits 4
  lengths := [10]

/-- The company numbers of Isle of Man. -/
def isleOfManUniversalAccess : NumberRange where
  pattern := lit "3440" ++ among "49" ++ lit "06" ++ digits 3 ||| (lit "3" ++ (lit "08162" |||
    lit "3" ++ digits 4 ||| lit "45624" ||| lit "7" ++ (lit "0624" ||| lit "2299")) ||| lit "55" ++
    digits 4) ++ digits 4
  lengths := [10]

/-- The fixed-line numbers of Isle of Man. -/
def isleOfManFixedLine : NumberRange where
  pattern := lit "1624" ++ (lit "230" ||| among "5678" ++ digits 2) ++ digits 3
  lengths := [10]
  localLengths := [6]

/-- The mobile numbers of Isle of Man. -/
def isleOfManMobile : NumberRange where
  pattern := lit "76245" ++ among "06" ++ digits 4 ||| lit "7" ++ (lit "4576" ||| among "59" ++
    lit "24" ++ digit ||| lit "624" ++ among "01234689") ++ digits 5
  lengths := [10]

/-- Isle of Man. -/
def isleOfMan : Region where
  id := "IM"
  callingCode := 44
  internationalPrefix := some <| lit "00"
  nationalPrefix := some <| group 1 (among "25678" ++ digits 5) ++ atEnd ||| lit "0" |||
    lit "180020"
  prefixRule := some ⟨"1624", 1⟩
  leadingDigits := some <| lit "74576" ||| (lit "16" ||| lit "7" ++ among "56") ++ lit "24"
  general := {
    pattern := lit "1624" ++ digits 6 ||| (among "3578" ++ digit ||| lit "90") ++ digits 8
    lengths := [10]
    localLengths := [6] }
  services := [(.premiumRate, isleOfManPremiumRate), (.tollFree, isleOfManTollFree),
    (.voip, sharedVoip), (.personal, sharedPersonal),
    (.universalAccess, isleOfManUniversalAccess), (.fixedLine, isleOfManFixedLine),
    (.mobile, isleOfManMobile)]

/-- The premium-rate numbers of Jersey. -/
def jerseyPremiumRate : NumberRange where
  pattern := (lit "8" ++ (lit "4" ++ (lit "4" ++ (lit "4" ++ (lit "05" ||| lit "42" |||
    lit "69") ||| lit "703") ||| lit "5" ++ (lit "041" ||| lit "800")) ||| lit "7" ++
    (lit "0002" ||| lit "1206")) ||| lit "90" ++ (lit "066" ++ among "59" ||| lit "1810" |||
    lit "71" ++ (lit "07" ||| lit "55"))) ++ digits 4
  lengths := [10]

/-- The toll-free numbers of Jersey. -/
def jerseyTollFree : NumberRange where
  pattern := lit "80" ++ (lit "07" ++ (lit "35" ||| lit "81") ||| lit "8901") ++ digits 4
  lengths := [10]

/-- The personal numbers of Jersey. -/
def jerseyPersonal : NumberRange where
  pattern := lit "701511" ++ digits 4
  lengths := [10]

/-- The company numbers of Jersey. -/
def jerseyUniversalAccess : NumberRange where
  pattern := (lit "3" ++ (lit "0" ++ (lit "07" ++ (lit "35" ||| lit "81") ||| lit "8901") |||
    lit "3" ++ digits 4 ||| lit "4" ++ (lit "4" ++ (lit "4" ++ (lit "05" ||| lit "42" |||
    lit "69") ||| lit "703") ||| lit "5" ++ (lit "041" ||| lit "800")) ||| lit "7" ++
    (lit "0002" ||| lit "1206")) ||| lit "55" ++ digits 4) ++ digits 4
  lengths := [10]

/-- The fixed-line numbers of Jersey. -/
def jerseyFixedLine : NumberRange where
  pattern := lit "1534" ++ among "01245678" ++ digits 5
  lengths := [10]
  localLengths := [6]

/-- The mobile numbers of Jersey. -/
def jerseyMobile : NumberRange where
  pattern := lit "7" ++ (((lit "50" ||| lit "82") ++ lit "9" ||| lit "937") ++ digit ||| lit "7" ++
    (lit "00" ++ among "378" ||| lit "97" ++ digit)) ++ digits 5
  lengths := [10]

/-- Jersey. -/
def jersey : Region where
  id := "JE"
  callingCode := 44
  internationalPrefix := some <| lit "00"
  nationalPrefix := some <| group 1 (among "01245678" ++ digits 5) ++ atEnd ||| lit "0" |||
    lit "180020"
  prefixRule := some ⟨"1534", 1⟩
  general := {
    pattern := lit "1534" ++ digits 6 ||| (among "3578" ++ digit ||| lit "90") ++ digits 8
    lengths := [10]
    localLengths := [6] }
  services := [(.premiumRate, jerseyPremiumRate), (.tollFree, jerseyTollFree),
    (.voip, sharedVoip), (.personal, jerseyPersonal), (.pager, sharedPager),
    (.universalAccess, jerseyUniversalAccess), (.fixedLine, jerseyFixedLine),
    (.mobile, jerseyMobile)]

/-- The regions of calling code 44 in the order in which they are searched. -/
def regions : List Region :=
  [unitedKingdom, guernsey, isleOfMan, jersey]

end AssistedDialing.NumberingPlan.BritishIsles
