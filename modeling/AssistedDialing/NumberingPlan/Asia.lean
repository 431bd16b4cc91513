import AssistedDialing.NumberingPlan.Basic

/-!
# The regions of calling codes 81 and 91
-/

namespace AssistedDialing.NumberingPlan.Asia

open Pattern

/-- The premium-rate numbers of Japan. -/
def japanPremiumRate : NumberRange where
  pattern := lit "990" ++ digits 6
  lengths := [9]

/-- The toll-free numbers of Japan. -/
def japanTollFree : NumberRange where
  pattern := lit "00777" ++ (among "01" ||| lit "5" ++ digit) ++ digits 2 ||| (lit "00" ++
    (lit "7778" ||| lit "882" ++ among "1245") ||| (lit "120" ||| lit "800" ++ digit) ++
    digits 2) ++ digits 4 ||| lit "00" ++ (lit "37" ||| lit "66" ||| lit "78") ++
    between 6 13 digit
  lengths := [8, 9, 10, 11, 12, 13, 14, 15, 16, 17]

/-- The numbers for internet telephony of Japan. -/
def japanVoip : NumberRange where
  pattern := lit "50" ++ among "123456789" ++ digits 7
  lengths := [10]

/-- The personal numbers of Japan. -/
def japanPersonal : NumberRange where
  pattern := lit "60" ++ digits 7
  lengths := [9]

/-- The pager numbers of Japan. -/
def japanPager : NumberRange where
  pattern := lit "20" ++ digits 8
  lengths := [10]

/-- The company numbers of Japan. -/
def japanUniversalAccess : NumberRange where
  pattern := lit "570" ++ digits 6
  lengths := [9]

/-- The fixed-line numbers of Japan. -/
def japanFixedLine : NumberRange where
  pattern := (lit "1" ++ (lit "1" ++ among "235678" ||| lit "2" ++ among "3456" ||| lit "3" ++
    among "3456789" ||| lit "4" ++ among "23456" ||| among "58" ++ among "2345678" ||| lit "6" ++
    among "234567" ||| lit "7" ++ among "23456789" ||| lit "9" ++ among "123456789") |||
    (lit "2" ++ among "23456789" ||| among "36" ++ among "123456789") ++ digit ||| lit "4" ++
    (among "234578" ++ digit ||| lit "6" ++ among "02345678" ||| lit "9" ++ among "23459") |||
    lit "5" ++ (among "234589" ++ digit ||| lit "6" ++ among "123456789" ||| lit "7" ++
    among "2345678") ||| lit "7" ++ (among "256789" ++ digit ||| lit "3" ++ among "456789" |||
    lit "4" ++ among "023456789") ||| lit "8" ++ (among "2679" ++ digit ||| lit "3" ++
    among "23456789" ||| lit "4" ++ among "56789" ||| lit "5" ++ among "123456789" ||| lit "8" ++
    among "03456789") ||| lit "9" ++ (among "23458" ++ digit ||| among "679" ++
    among "123456789")) ++ digits 6
  lengths := [9]

/-- The mobile numbers of Japan. -/
def japanMobile : NumberRange where
  pattern := among "6789" ++ lit "0" ++ among "123456789" ++ digits 7
  lengths := [10]

/-- Japan. -/
def japan : Region where
  id := "JP"
  callingCode := 81
  internationalPrefix := some <| lit "010"
  nationalPrefix := some <| group 1 (lit "000" ++ among "2569" ++ between 4 6 digit) ++ atEnd |||
    lit "003768" ++ optional (lit "0") ||| lit "0"
  prefixRule := some ⟨"", 1⟩
  general := {
    pattern := lit "00" ++ among "123456789" ++ between 6 14 digit ||| among "256789" ++
      digits 9 ||| (lit "00" ||| among "123456789" ++ digits 2) ++ digits 6
    lengths := [8, 9, 10, 11, 12, 13, 14, 15, 16, 17] }
  services := [(.premiumRate, japanPremiumRate), (.tollFree, japanTollFree), (.voip, japanVoip),
    (.personal, japanPersonal), (.pager, japanPager), (.universalAccess, japanUniversalAccess),
    (.fixedLine, japanFixedLine), (.mobile, japanMobile)]

/-- The premium-rate numbers of India. -/
def indiaPremiumRate : NumberRange where
  pattern := lit "186" ++ among "12" ++ digits 9
  lengths := [13]

/-- The toll-free numbers of India. -/
def indiaTollFree : NumberRange where
  pattern := lit "000800" ++ digits 7 ||| lit "180" ++ (lit "0" ++ between 4 9 digit ||| lit "3" ++
    digits 9)
  lengths := [8, 9, 10, 11, 12, 13]

/-- The numbers at shared cost of India. -/
def indiaSharedCost : NumberRange where
  pattern := lit "1860" ++ digits 7
  lengths := [11]

/-- The company numbers of India. -/
def indiaUniversalAccess : NumberRange where
  pattern := lit "140" ++ digits 7
  lengths := [10]

/-- The fixed-line numbers of India. -/
def indiaFixedLine : NumberRange where
  pattern := (lit "2717" ++ (among "234567" ++ digit ||| lit "95") ||| lit "6828" ++
    among "23567" ++ digit) ++ digits 4 ||| (lit "170" ++ among "24" ||| lit "280" ++
    among "13468" ||| lit "4" ++ (lit "20" ++ among "24" ||| lit "72" ++ among "2345678") |||
    lit "552" ++ among "1234567") ++ digits 6 ||| (lit "271" ++ among "012345689" ||| lit "682" ++
    among "012345679" ||| lit "782" ++ among "0123456") ++ among "234567" ++ digits 5 |||
    (lit "2" ++ (among "02" ++ among "2345679" ||| lit "90") ||| lit "3" ++ (lit "23" |||
    lit "80") ||| lit "683" ||| lit "79" ++ among "12345") ++ digits 7 ||| (lit "11" |||
    lit "33" ||| lit "4" ++ among "04" ||| lit "80") ++ among "234567" ++ digits 7 |||
    (lit "342" ||| lit "674" ||| lit "788") ++ (among "0189" ++ among "234567" |||
    among "234567" ++ digit) ++ digits 5 ||| (lit "1" ++ (lit "2" ++ among "01249" ||| lit "3" ++
    among "0125" ||| lit "4" ++ among "145" ||| among "59" ++ among "14" ||| lit "6" ++
    among "014" ||| lit "7" ++ among "1257" ||| lit "8" ++ among "01346") ||| lit "2" ++
    (lit "1" ++ among "257" ||| lit "3" ++ among "013" ||| lit "4" ++ among "01" ||| lit "5" ++
    among "0137" ||| lit "6" ++ among "0158" ||| lit "78" ||| lit "8" ++ among "1568" |||
    lit "9" ++ among "14") ||| lit "3" ++ (lit "26" ||| lit "4" ++ among "13" ||| lit "5" ++
    among "34" ||| lit "6" ++ among "01489" ||| lit "7" ++ among "02346" ||| lit "8" ++
    among "159") ||| lit "4" ++ (lit "1" ++ among "36" ||| lit "2" ++ among "12347" ||| lit "3" ++
    among "15" ||| lit "5" ++ among "12" ||| lit "6" ++ among "0126789" ||| lit "7" ++
    among "01456789" ||| lit "8" ++ among "013457" ||| lit "9" ++ among "014567") ||| lit "5" ++
    (lit "1" ++ among "025" ||| lit "22" ||| among "36" ++ among "25" ||| lit "4" ++ among "28" |||
    among "578" ++ lit "1" ||| lit "9" ++ among "15") ||| lit "6" ++ (lit "12" ||| among "2347" ++
    lit "1" ||| lit "5" ++ among "17" ||| lit "6" ++ among "13" ||| lit "80") ||| lit "7" ++
    (lit "12" ||| lit "2" ++ among "14" ||| lit "3" ++ among "134" ||| lit "4" ++ among "47" |||
    lit "5" ++ among "15" ||| among "67" ++ lit "1") ||| lit "8" ++ (lit "16" ||| lit "2" ++
    among "014" ||| lit "3" ++ among "126" ||| lit "6" ++ among "136" ||| lit "7" ++ among "078" |||
    lit "8" ++ among "34" ||| lit "91")) ++ among "234567" ++ digits 6 ||| (lit "1" ++ (lit "2" ++
    among "35678" ||| lit "3" ++ among "346789" ||| lit "4" ++ among "236789" ||| among "59" ++
    among "02356789" ||| lit "6" ++ among "2356789" ||| lit "7" ++ among "34689" ||| lit "8" ++
    among "25789") ||| lit "2" ++ (lit "1" ++ among "134689" ||| lit "3" ++ among "245678" |||
    lit "4" ++ among "2345678" ||| lit "5" ++ among "25689" ||| lit "6" ++ among "234679" |||
    lit "7" ++ among "345679" ||| lit "8" ++ among "23479" ||| lit "9" ++ among "2356789") |||
    lit "3" ++ (lit "01" ||| lit "1" ++ among "79" ||| lit "2" ++ among "1245" ||| lit "4" ++
    among "5678" ||| lit "5" ++ among "125689" ||| lit "6" ++ among "23567" ||| lit "7" ++
    among "15789" ||| lit "8" ++ among "234678") ||| lit "4" ++ (lit "1" ++ among "14578" |||
    lit "2" ++ among "5689" ||| lit "3" ++ among "23467" ||| lit "5" ++ among "4567" ||| lit "6" ++
    among "35" ||| lit "73" ||| lit "8" ++ among "2689" ||| lit "9" ++ among "2389") ||| lit "5" ++
    (among "16" ++ among "146789" ||| lit "2" ++ among "145678" ||| lit "3" ++ among "1346" |||
    lit "4" ++ among "14569" ||| lit "5" ++ among "46" ||| lit "7" ++ among "234" ||| lit "8" ++
    among "2345678" ||| lit "9" ++ among "246") ||| lit "6" ++ (lit "1" ++ among "1358" |||
    lit "2" ++ among "2457" ||| lit "3" ++ among "234" ||| lit "4" ++ among "23567" ||| lit "5" ++
    among "2345689" ||| lit "6" ++ among "24578" ||| lit "7" ++ among "235689" ||| lit "8" ++
    among "1456") ||| lit "7" ++ (lit "1" ++ among "013456789" ||| lit "2" ++ among "02356789" |||
    lit "3" ++ among "2679" ||| lit "4" ++ among "1235689" ||| lit "5" ++ among "2346789" |||
    among "67" ++ among "023456789" ||| lit "8" ++ among "0134567" ||| lit "90") ||| lit "8" ++
    (lit "1" ++ among "135789" ||| lit "2" ++ among "235678" ||| lit "3" ++ among "0345789" |||
    lit "4" ++ among "012456789" ||| lit "5" ++ digit ||| lit "6" ++ among "245789" ||| lit "7" ++
    among "123456" ||| lit "8" ++ among "1256" ||| lit "9" ++ among "234")) ++ digit ++
    among "234567" ++ digits 5
  lengths := [10]
  localLengths := [6, 7, 8]

/-- The mobile numbers of India. -/
def indiaMobile : NumberRange where
  pattern := (lit "6" ++ (lit "1279" ||| lit "828" ++ among "01489") ||| lit "7" ++ (lit "887" ++
    among "023456789" ||| lit "9313") ||| lit "8" ++ (lit "079" ++ among "0456789" ||| (lit "84" |||
    lit "91") ++ lit "7" ++ among "02345678")) ++ digits 5 ||| (lit "160" ++ among "01" |||
    lit "6" ++ ((lit "12" ||| among "234" ++ lit "1" ||| lit "5" ++ among "17" ||| lit "6" ++
    among "13" ||| lit "80") ++ among "0189" ||| lit "7" ++ (lit "1" ++ among "0189" |||
    lit "86")) ||| lit "7" ++ (lit "1" ++ (lit "2" ++ among "0189" ||| lit "9" ++
    among "012345") ||| lit "3" ++ (lit "2" ++ among "5678" ||| among "34" ++ among "01789" |||
    lit "9" ++ among "016789") ||| lit "5" ++ (among "15" ++ among "01789" ||| lit "2" ++
    among "0456789" ||| lit "9" ++ among "789") ||| lit "6" ++ (lit "0" ++ among "012347" |||
    lit "1" ++ among "0125789" ||| lit "2" ++ among "01234" ||| lit "3" ++ among "19" |||
    lit "5" ++ among "4589") ||| lit "70" ++ among "0289" ||| lit "88" ++ among "089") |||
    lit "8" ++ (lit "0" ++ (lit "6" ++ among "67" ||| lit "7" ++ among "02345678") ||| lit "70" ++
    among "01789" ||| lit "84" ++ among "01489" ||| lit "91" ++ among "01289")) ++ digits 6 |||
    (lit "731" ||| lit "8" ++ (lit "16" ||| lit "2" ++ among "014" ||| lit "3" ++ among "126" |||
    lit "6" ++ among "136" ||| lit "7" ++ among "78" ||| lit "83")) ++ (among "0189" ++ digit |||
    lit "7" ++ among "02345678") ++ digits 5 ||| (lit "6" ++ ((lit "1" ++ among "1358" |||
    lit "2" ++ among "2457" ||| lit "3" ++ among "234" ||| lit "4" ++ among "23567" ||| lit "5" ++
    among "2345689" ||| lit "6" ++ among "24578") ++ digit ||| lit "7" ++ (among "23569" ++
    digit ||| lit "4" ++ among "0189" ||| lit "8" ++ among "012345789") ||| lit "8" ++
    (among "1456" ++ digit ||| lit "2" ++ among "012345679")) ||| lit "7" ++ (lit "1" ++
    (among "01345678" ++ digit ||| lit "9" ++ among "6789") ||| lit "3" ++ (lit "2" ++
    among "012349" ||| lit "9" ++ among "2345") ||| lit "5" ++ (lit "2" ++ among "123" |||
    lit "9" ++ among "0123456") ||| lit "6" ++ (lit "0" ++ among "5689" ||| lit "2" ++
    among "56789" ||| lit "3" ++ among "02345678" ||| lit "4" ++ digit ||| lit "5" ++
    among "012367") ||| lit "70" ++ among "134567" ||| lit "881")) ++ among "0189" ++ digits 5 |||
    (lit "6" ++ (among "09" ++ digit ||| lit "1" ++ among "04679" ||| lit "2" ++ among "03689" |||
    lit "3" ++ among "056789" ||| lit "4" ++ among "0489" ||| lit "50" ||| lit "6" ++
    among "069" ||| lit "7" ++ among "07" ||| lit "8" ++ among "789") ||| lit "7" ++
    (among "024" ++ digit ||| lit "3" ++ among "05678" ||| lit "5" ++ among "034678" ||| lit "6" ++
    among "6789" ||| lit "7" ++ among "123456789" ||| lit "8" ++ among "012345679" ||| lit "9" ++
    among "06789") ||| lit "8" ++ (lit "0" ++ among "01589" ||| lit "1" ++ among "012345789" |||
    lit "2" ++ among "2356789" ||| lit "3" ++ among "0345789" ||| among "45" ++ digit |||
    lit "6" ++ among "0245789" ||| lit "7" ++ among "1234569" ||| lit "8" ++ among "01256789" |||
    lit "9" ++ among "023456789") ||| lit "9" ++ digits 2) ++ digits 7
  lengths := [10]

/-- India. -/
def india : Region where
  id := "IN"
  callingCode := 91
  internationalPrefix := some <| lit "00"
  nationalPrefix := some <| lit "0"
  general := {
    pattern := (lit "000800" ||| among "23456789" ++ digits 2) ++ digits 7 ||| lit "1" ++
      between 7 12 digit
    lengths := [8, 9, 10, 11, 12, 13]
    localLengths := [6, 7] }
  services := [(.premiumRate, indiaPremiumRate), (.tollFree, indiaTollFree),
    (.sharedCost, indiaSharedCost), (.universalAccess, indiaUniversalAccess),
    (.fixedLine, indiaFixedLine), (.mobile, indiaMobile)]

/-- The regions of calling codes 81 and 91. -/
def regions : List Region :=
  [japan, india]

end AssistedDialing.NumberingPlan.Asia
