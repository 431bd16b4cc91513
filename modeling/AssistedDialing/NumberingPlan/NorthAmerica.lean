import AssistedDialing.NumberingPlan.Basic

/-!
# The regions of calling code 1

Most of these regions are told apart by the three digits that their numbers begin with. A local
number of seven digits is completed by those digits, which the rule of the national prefix supplies.
-/

namespace AssistedDialing.NumberingPlan.NorthAmerica

open Pattern

/-- The numbers that several regions use alike for premium-rate calls. -/
def sharedPremiumRate : NumberRange where
  pattern := lit "900" ++ among "23456789" ++ digits 6
  lengths := [10]

/-- The numbers that several regions use alike for toll-free calls. -/
def sharedTollFree : NumberRange where
  pattern := lit "8" ++ (lit "00" ||| lit "33" ||| lit "44" ||| lit "55" ||| lit "66" |||
    lit "77" ||| lit "88") ++ among "23456789" ++ digits 6
  lengths := [10]

/-- The numbers that several regions use alike for personal numbers. -/
def sharedPersonal : NumberRange where
  pattern := lit "52" ++ (lit "3" ++ (among "2346789" ++ among "023456789" ++ digit ||| lit "5" ++
    (among "02346789" ++ digit ||| lit "5" ++ among "012346789")) ||| lit "4" ++ (among "23478" ++
    among "023456789" ++ digit ||| lit "5" ++ (among "034" ++ digit ||| lit "2" ++
    among "02456789" ||| lit "5" ++ among "012346789") ||| lit "6" ++ (lit "0" ++
    among "123456789" ||| among "23456789" ++ digit) ||| lit "9" ++ (among "056789" ++ digit |||
    lit "2" ++ among "012345" ||| lit "49"))) ++ digits 4 ||| lit "52" ++ among "34" ++
    among "23456789" ++ lit "1" ++ among "023456789" ++ digits 4 ||| lit "5" ++ (lit "00" |||
    lit "2" ++ among "1256789" ||| lit "3" ++ among "23" ||| lit "44" ||| lit "66" ||| lit "77" |||
    lit "88") ++ among "23456789" ++ digits 6
  lengths := [10]

/-- The fixed-line and mobile numbers of United States. -/
def unitedStatesFixedLine : NumberRange where
  pattern := lit "983" ++ among "2345789" ++ digits 6 ||| (lit "2" ++ (lit "0" ++
    among "12356789" ||| lit "1" ++ among "023456789" ||| lit "2" ++ among "0345789" ||| lit "3" ++
    among "1459" ||| lit "4" ++ among "08" ||| lit "5" ++ among "12346" ||| lit "6" ++
    among "0279" ||| lit "7" ++ among "02469" ||| lit "8" ++ among "13") ||| lit "3" ++ (lit "0" ++
    among "12345789" ||| lit "1" ++ among "023456789" ||| lit "2" ++ among "01345679" |||
    lit "3" ++ among "0124679" ||| lit "4" ++ among "167" ||| lit "5" ++ among "0123" |||
    lit "6" ++ among "01349" ||| lit "8" ++ among "056") ||| lit "4" ++ (lit "0" ++
    among "12456789" ||| lit "1" ++ among "0234579" ||| lit "2" ++ among "345" ||| lit "3" ++
    among "0245" ||| lit "4" ++ among "023578" ||| lit "58" ||| lit "6" ++ among "349" |||
    lit "7" ++ among "02589" ||| lit "8" ++ among "04") ||| lit "5" ++ (lit "0" ++
    among "12345789" ||| lit "1" ++ among "0235678" ||| lit "20" ||| lit "3" ++ among "0149" |||
    lit "4" ++ among "01" ||| lit "5" ++ among "179" ||| lit "6" ++ among "12347" ||| lit "7" ++
    among "012345" ||| lit "8" ++ among "0256") ||| lit "6" ++ (lit "0" ++ among "12356789" |||
    lit "1" ++ among "02456789" ||| lit "2" ++ among "03689" ||| lit "3" ++ among "016" |||
    lit "4" ++ among "0156" ||| lit "5" ++ among "01679" ||| lit "6" ++ among "01279" |||
    lit "78" ||| lit "8" ++ among "01269") ||| lit "7" ++ (lit "0" ++ among "1234678" |||
    lit "1" ++ among "23456789" ||| lit "2" ++ among "045678" ||| lit "3" ++ among "012478" |||
    lit "4" ++ among "0378" ||| lit "5" ++ among "47" ||| lit "6" ++ among "02359" ||| lit "7" ++
    among "0123459" ||| lit "8" ++ among "156") ||| lit "8" ++ (lit "0" ++ among "1234568" |||
    lit "1" ++ among "02345678" ||| lit "2" ++ among "0168" ||| lit "3" ++ among "012589" |||
    lit "4" ++ among "03578" ||| lit "5" ++ among "046789" ||| lit "6" ++ among "02345" |||
    lit "7" ++ among "028") ||| lit "9" ++ (lit "0" ++ among "1346789" ||| lit "1" ++
    among "023456789" ||| lit "2" ++ among "0589" ||| lit "3" ++ among "014678" ||| lit "4" ++
    among "0135789" ||| lit "5" ++ among "12469" ||| lit "7" ++ among "0123589" ||| lit "8" ++
    among "04569")) ++ among "23456789" ++ digits 6
  lengths := [10]
  localLengths := [7]

/-- United States. -/
def unitedStates : Region where
  id := "US"
  callingCode := 1
  internationalPrefix := some <| lit "011"
  nationalPrefix := some <| lit "1"
  general := {
    pattern := among "23456789" ++ digits 9 ||| lit "3" ++ digits 6
    lengths := [10]
    localLengths := [7] }
  services := [(.premiumRate, sharedPremiumRate), (.tollFree, sharedTollFree),
    (.personal, sharedPersonal), (.fixedLine, unitedStatesFixedLine),
    (.mobile, unitedStatesFixedLine)]

/-- The numbers for internet telephony of Antigua and Barbuda. -/
def antiguaAndBarbudaVoip : NumberRange where
  pattern := lit "26848" ++ among "01" ++ digits 4
  lengths := [10]
  localLengths := [7]

/-- The pager numbers of Antigua and Barbuda. -/
def antiguaAndBarbudaPager : NumberRange where
  pattern := lit "26840" ++ among "69" ++ digits 4
  lengths := [10]
  localLengths := [7]

/-- The fixed-line numbers of Antigua and Barbuda. -/
def antiguaAndBarbudaFixedLine : NumberRange where
  pattern := lit "268" ++ (lit "4" ++ (lit "6" ++ among "01238" ||| lit "84") ||| lit "56" ++
    among "012") ++ digits 4
  lengths := [10]
  localLengths := [7]

/-- The mobile numbers of Antigua and Barbuda. -/
def antiguaAndBarbudaMobile : NumberRange where
  pattern := lit "268" ++ (lit "464" ||| lit "7" ++ (lit "1" ++ among "3456789" ||| among "28" ++
    digit ||| lit "3" ++ among "0246" ||| lit "64" ||| lit "7" ++ among "012345689")) ++
    digits 4
  lengths := [10]
  localLengths := [7]

/-- Antigua and Barbuda. -/
def antiguaAndBarbuda : Region where
  id := "AG"
  callingCode := 1
  internationalPrefix := some <| lit "011"
  nationalPrefix := some <| group 1 (among "457" ++ digits 6) ++ atEnd ||| lit "1"
  prefixRule := some ⟨"268", 1⟩
  leadingDigits := some <| lit "268"
  general := {
    pattern := (lit "268" ||| among "58" ++ digits 2 ||| lit "900") ++ digits 7
    lengths := [10]
    localLengths := [7] }
  services := [(.premiumRate, sharedPremiumRate), (.tollFree, sharedTollFree),
    (.voip, antiguaAndBarbudaVoip), (.personal, sharedPersonal), (.pager, antiguaAndBarbudaPager),
    (.fixedLine, antiguaAndBarbudaFixedLine), (.mobile, antiguaAndBarbudaMobile)]

/-- The pager numbers of Anguilla. -/
def anguillaPager : NumberRange where
  pattern := lit "264724" ++ digits 4
  lengths := [10]
  localLengths := [7]

/-- The fixed-line numbers of Anguilla. -/
def anguillaFixedLine : NumberRange where
  pattern := lit "264" ++ (lit "292" ||| lit "4" ++ (lit "6" ++ among "12" ||| lit "9" ++
    among "78")) ++ digits 4
  lengths := [10]
  localLengths := [7]

/-- The mobile numbers of Anguilla. -/
def anguillaMobile : NumberRange where
  pattern := lit "264" ++ (lit "235" ||| lit "4" ++ (lit "69" ||| lit "7" ++ among "67") |||
    lit "5" ++ (lit "3" ++ among "6789" ||| lit "8" ++ among "1234") ||| lit "7" ++ (lit "29" |||
    lit "72")) ++ digits 4
  lengths := [10]
  localLengths := [7]

/-- Anguilla. -/
def anguilla : Region where
  id := "AI"
  callingCode := 1
  internationalPrefix := some <| lit "011"
  nationalPrefix := some <| group 1 (among "2457" ++ digits 6) ++ atEnd ||| lit "1"
  prefixRule := some ⟨"264", 1⟩
  leadingDigits := some <| lit "264"
  general := {
    pattern := (lit "264" ||| among "58" ++ digits 2 ||| lit "900") ++ digits 7
    lengths := [10]
    localLengths := [7] }
  services := [(.premiumRate, sharedPremiumRate), (.tollFree, sharedTollFree),
    (.personal, sharedPersonal), (.pager, anguillaPager), (.fixedLine, anguillaFixedLine),
    (.mobile, anguillaMobile)]

/-- The fixed-line numbers of American Samoa. -/
def americanSamoaFixedLine : NumberRange where
  pattern := lit "684" ++ (lit "274" ||| lit "6" ++ (lit "22" ||| lit "33" ||| lit "44" |||
    lit "55" ||| lit "77" ||| lit "88" ||| lit "9" ++ among "19")) ++ digits 4
  lengths := [10]
  localLengths := [7]

/-- The mobile numbers of American Samoa. -/
def americanSamoaMobile : NumberRange where
  pattern := lit "684" ++ (lit "2" ++ (lit "48" ||| lit "5" ++ among "2468" ||| lit "7" ++
    among "246") ||| lit "7" ++ (lit "3" ++ among "13" ||| lit "70" ||| lit "82")) ++ digits 4
  lengths := [10]
  localLengths := [7]

/-- American Samoa. -/
def americanSamoa : Region where
  id := "AS"
  callingCode := 1
  internationalPrefix := some <| lit "011"
  nationalPrefix := some <| group 1 (among "267" ++ digits 6) ++ atEnd ||| lit "1"
  prefixRule := some ⟨"684", 1⟩
  leadingDigits := some <| lit "684"
  general := {
    pattern := (among "58" ++ digits 2 ||| lit "684" ||| lit "900") ++ digits 7
    lengths := [10]
    localLengths := [7] }
  services := [(.premiumRate, sharedPremiumRate), (.tollFree, sharedTollFree),
    (.personal, sharedPersonal), (.fixedLine, americanSamoaFixedLine),
    (.mobile, americanSamoaMobile)]

/-- The premium-rate numbers of Barbados. -/
def barbadosPremiumRate : NumberRange where
  pattern := (lit "246976" ||| lit "900" ++ among "23456789" ++ digits 2) ++ digits 4
  lengths := [10]
  localLengths := [7]

/-- The numbers for internet telephony of Barbados. -/
def barbadosVoip : NumberRange where
  pattern := lit "24631" ++ digits 5
  lengths := [10]
  localLengths := [7]

/-- The company numbers of Barbados. -/
def barbadosUniversalAccess : NumberRange where
  pattern := lit "246" ++ (lit "292" ||| lit "367" ||| lit "4" ++ (lit "1" ++ among "789" |||
    lit "3" ++ among "01" ||| lit "4" ++ among "4789" ||| lit "67") ||| lit "7" ++ (lit "1" ++
    among "23456789" ||| lit "2" ++ digit ||| lit "3" ++ among "016" ||| lit "53")) ++ digits 4
  lengths := [10]
  localLengths := [7]

/-- The fixed-line numbers of Barbados. -/
def barbadosFixedLine : NumberRange where
  pattern := lit "246521" ++ among "0369" ++ digits 3 ||| lit "246" ++ (lit "2" ++ (lit "2" ++
    among "78" ||| lit "7" ++ among "01234") ||| lit "4" ++ (lit "1" ++ among "02456" |||
    lit "2" ++ digit ||| lit "3" ++ among "23456789") ||| lit "5" ++ (lit "20" ||| among "34" ++
    digit ||| lit "54" ||| lit "7" ++ among "123") ||| lit "6" ++ (lit "2" ++ digit |||
    lit "38") ||| lit "7" ++ among "35" ++ lit "7" ||| lit "9" ++ (lit "1" ++ among "89" |||
    lit "63")) ++ digits 4
  lengths := [10]
  localLengths := [7]

/-- The mobile numbers of Barbados. -/
def barbadosMobile : NumberRange where
  pattern := lit "246" ++ ((lit "2" ++ (among "3568" ++ digit ||| lit "4" ++ among "012345789") |||
    lit "3" ++ (lit "5" ++ among "23456789" ||| lit "6" ++ among "0123456") ||| lit "4" ++
    (lit "46" ||| lit "5" ++ digit) ||| lit "69" ++ among "567" ||| lit "8" ++ (among "2345" ++
    digit ||| lit "83")) ++ digit ||| lit "52" ++ (lit "1" ++ among "147" ||| lit "20")) ++
    digits 3
  lengths := [10]
  localLengths := [7]

/-- Barbados. -/
def barbados : Region where
  id := "BB"
  callingCode := 1
  internationalPrefix := some <| lit "011"
  nationalPrefix := some <| group 1 (among "23456789" ++ digits 6) ++ atEnd ||| lit "1"
  prefixRule := some ⟨"246", 1⟩
  leadingDigits := some <| lit "246"
  general := {
    pattern := (lit "246" ||| among "58" ++ digits 2 ||| lit "900") ++ digits 7
    lengths := [10]
    localLengths := [7] }
  services := [(.premiumRate, barbadosPremiumRate), (.tollFree, sharedTollFree),
    (.voip, barbadosVoip), (.personal, sharedPersonal),
    (.universalAccess, barbadosUniversalAccess), (.fixedLine, barbadosFixedLine),
    (.mobile, barbadosMobile)]

/-- The fixed-line numbers of Bermuda. -/
def bermudaFixedLine : NumberRange where
  pattern := lit "441" ++ (among "46" ++ digits 2 ||| lit "5" ++ (lit "4" ++ digit ||| lit "60" |||
    lit "89")) ++ digits 4
  lengths := [10]
  localLengths := [7]

/-- The mobile numbers of Bermuda. -/
def bermudaMobile : NumberRange where
  pattern := lit "441" ++ (among "2378" ++ digit ||| lit "5" ++ among "01239" ||| lit "9" ++
    among "02") ++ digits 5
  lengths := [10]
  localLengths := [7]

/-- Bermuda. -/
def bermuda : Region where
  id := "BM"
  callingCode := 1
  internationalPrefix := some <| lit "011"
  nationalPrefix := some <| group 1 (among "23456789" ++ digits 6) ++ atEnd ||| lit "1"
  prefixRule := some ⟨"441", 1⟩
  leadingDigits := some <| lit "441"
  general := {
    pattern := (lit "441" ||| among "58" ++ digits 2 ||| lit "900") ++ digits 7
    lengths := [10]
    localLengths := [7] }
  services := [(.premiumRate, sharedPremiumRate), (.tollFree, sharedTollFree),
    (.personal, sharedPersonal), (.fixedLine, bermudaFixedLine), (.mobile, bermudaMobile)]

/-- The toll-free numbers of Bahamas. -/
def bahamasTollFree : NumberRange where
  pattern := lit "242300" ++ digits 4 ||| lit "8" ++ (lit "00" ||| lit "33" ||| lit "44" |||
    lit "55" ||| lit "66" ||| lit "77" ||| lit "88") ++ among "23456789" ++ digits 6
  lengths := [10]
  localLengths := [7]

/-- The company numbers of Bahamas. -/
def bahamasUniversalAccess : NumberRange where
  pattern := lit "242225" ++ digits 4
  lengths := [10]

/-- The fixed-line numbers of Bahamas. -/
def bahamasFixedLine : NumberRange where
  pattern := lit "242" ++ (lit "3" ++ (lit "02" ||| among "236" ++ among "123456789" ||| lit "4" ++
    among "012456789" ||| lit "5" ++ among "01234568" ||| lit "7" ++ among "347" ||| lit "8" ++
    among "01234" ||| lit "9" ++ among "23467") ||| lit "461" ||| lit "502" ||| lit "6" ++
    (lit "0" ++ among "12345" ||| lit "12" ||| lit "2" ++ among "013" ||| among "45" ++ lit "0" |||
    lit "7" ++ among "67" ||| lit "8" ++ among "78" ||| lit "9" ++ among "89") ||| lit "7" ++
    (lit "02" ||| lit "88")) ++ digits 4
  lengths := [10]
  localLengths := [7]

/-- The mobile numbers of Bahamas. -/
def bahamasMobile : NumberRange where
  pattern := lit "242" ++ (lit "3" ++ (lit "5" ++ among "79" ||| lit "7" ++ among "56" |||
    lit "95") ||| lit "4" ++ (among "23" ++ among "123456789" ||| lit "4" ++ among "12356789" |||
    lit "5" ++ among "12345678" ||| lit "6" ++ among "2345678" ||| lit "7" ++ digit |||
    lit "81") ||| lit "5" ++ (lit "2" ++ among "45" ||| lit "3" ++ among "35" ||| lit "44" |||
    lit "5" ++ among "12346789" ||| lit "65" ||| lit "77") ||| lit "6" ++ among "34" ++ lit "6" |||
    lit "7" ++ (lit "27" ||| lit "38") ||| lit "8" ++ (lit "0" ++ among "123456789" ||| lit "1" ++
    among "023456789" ||| lit "2" ++ digit ||| lit "3" ++ among "01234" ||| among "89" ++
    lit "9")) ++ digits 4
  lengths := [10]
  localLengths := [7]

/-- Bahamas. -/
def bahamas : Region where
  id := "BS"
  callingCode := 1
  internationalPrefix := some <| lit "011"
  nationalPrefix := some <| group 1 (among "345678" ++ digits 6) ++ atEnd ||| lit "1"
  prefixRule := some ⟨"242", 1⟩
  leadingDigits := some <| lit "242"
  general := {
    pattern := (lit "242" ||| among "58" ++ digits 2 ||| lit "900") ++ digits 7
    lengths := [10]
    localLengths := [7] }
  services := [(.premiumRate, sharedPremiumRate), (.tollFree, bahamasTollFree),
    (.personal, sharedPersonal), (.universalAccess, bahamasUniversalAccess),
    (.fixedLine, bahamasFixedLine), (.mobile, bahamasMobile)]

/-- The numbers for internet telephony of Canada. -/
def canadaVoip : NumberRange where
  pattern := lit "600" ++ among "23456789" ++ digits 6
  lengths := [10]

/-- The personal numbers of Canada. -/
def canadaPersonal : NumberRange where
  pattern := lit "52" ++ (lit "3" ++ (among "2346789" ++ among "023456789" ++ digit ||| lit "5" ++
    (among "02346789" ++ digit ||| lit "5" ++ among "012346789")) ||| lit "4" ++ (among "23478" ++
    among "023456789" ++ digit ||| lit "5" ++ (among "034" ++ digit ||| lit "2" ++
    among "02456789" ||| lit "5" ++ among "012346789") ||| lit "6" ++ (lit "0" ++
    among "123456789" ||| among "23456789" ++ digit) ||| lit "9" ++ (among "056789" ++ digit |||
    lit "2" ++ among "012345" ||| lit "49"))) ++ digits 4 ||| lit "52" ++ among "34" ++
    among "23456789" ++ lit "1" ++ among "023456789" ++ digits 4 ||| (lit "5" ++ (lit "2" ++
    among "1256789" ||| lit "3" ++ among "23" ||| lit "44" ||| lit "66" ||| lit "77" |||
    lit "88") ||| lit "6" ++ (lit "22" ||| lit "33")) ++ among "23456789" ++ digits 6
  lengths := [10]

/-- The company numbers of Canada. -/
def canadaUniversalAccess : NumberRange where
  pattern := lit "310" ++ digits 4
  lengths := [7]

/-- The fixed-line and mobile numbers of Canada. -/
def canadaFixedLine : NumberRange where
  pattern := (lit "2" ++ (lit "04" ||| among "23" ++ lit "6" ||| among "48" ++ lit "9" |||
    lit "5" ++ among "07" ||| among "67" ++ lit "3") ||| lit "3" ++ (lit "06" ||| lit "43" |||
    lit "54" ||| lit "6" ++ among "578" ||| lit "82") ||| lit "4" ++ (lit "03" ||| lit "1" ++
    among "68" ||| among "26" ++ lit "8" ||| lit "3" ++ among "178" ||| lit "50" ||| lit "74") |||
    lit "5" ++ (lit "06" ||| lit "1" ++ among "49" ||| lit "48" ||| lit "79" ||| lit "8" ++
    among "147") ||| lit "6" ++ (lit "04" ||| among "18" ++ lit "3" ||| lit "39" ||| lit "47" |||
    lit "72") ||| lit "7" ++ (lit "0" ++ among "59" ||| lit "42" ||| lit "53" ||| lit "78" |||
    lit "8" ++ among "02") ||| lit "8" ++ (among "06" ++ lit "7" ||| lit "19" ||| lit "25" |||
    lit "7" ++ among "39") ||| lit "9" ++ (lit "0" ++ among "25" ||| lit "42")) ++
    among "23456789" ++ digits 6
  lengths := [10]
  localLengths := [7]

/-- Canada. -/
def canada : Region where
  id := "CA"
  callingCode := 1
  internationalPrefix := some <| lit "011"
  nationalPrefix := some <| lit "1"
  general := {
    pattern := among "23456789" ++ digits 9 ||| lit "3" ++ digits 6
    lengths := [7, 10] }
  services := [(.premiumRate, sharedPremiumRate), (.tollFree, sharedTollFree),
    (.voip, canadaVoip), (.personal, canadaPersonal), (.universalAccess, canadaUniversalAccess),
    (.fixedLine, canadaFixedLine), (.mobile, canadaFixedLine)]

/-- The fixed-line numbers of Dominica. -/
def dominicaFixedLine : NumberRange where
  pattern := lit "767" ++ (lit "2" ++ (lit "55" ||| lit "66") ||| lit "4" ++ (lit "2" ++
    among "01" ||| lit "4" ++ among "01256789") ||| lit "50" ++ among "01234") ++ digits 4
  lengths := [10]
  localLengths := [7]

/-- The mobile numbers of Dominica. -/
def dominicaMobile : NumberRange where
  pattern := lit "767" ++ (lit "2" ++ (among "234689" ++ lit "5" ||| lit "7" ++ among "567") |||
    lit "31" ++ among "567" ||| lit "61" ++ among "12345678" ||| lit "70" ++ among "123456") ++
    digits 4
  lengths := [10]
  localLengths := [7]

/-- Dominica. -/
def dominica : Region where
  id := "DM"
  callingCode := 1
  internationalPrefix := some <| lit "011"
  nationalPrefix := some <| group 1 (among "234567" ++ digits 6) ++ atEnd ||| lit "1"
  prefixRule := some ⟨"767", 1⟩
  leadingDigits := some <| lit "767"
  general := {
    pattern := (among "58" ++ digits 2 ||| lit "767" ||| lit "900") ++ digits 7
    lengths := [10]
    localLengths := [7] }
  services := [(.premiumRate, sharedPremiumRate), (.tollFree, sharedTollFree),
    (.personal, sharedPersonal), (.fixedLine, dominicaFixedLine), (.mobile, dominicaMobile)]

/-- The toll-free numbers of Dominican Republic. -/
def dominicanRepublicTollFree : NumberRange where
  pattern := lit "800" ++ (lit "14" ||| among "23456789" ++ digit) ++ digits 5 ||| lit "8" ++
    among "024" ++ lit "9" ++ among "01" ++ digits 6 ||| lit "8" ++ (lit "33" ||| lit "44" |||
    lit "55" ||| lit "66" ||| lit "77" ||| lit "88") ++ among "23456789" ++ digits 6
  lengths := [10]

/-- The fixed-line numbers of Dominican Republic. -/
def dominicanRepublicFixedLine : NumberRange where
  pattern := lit "8" ++ (among "04" ++ lit "9" ++ among "23456789" ++ digits 2 ||| lit "29" ++
    (lit "2" ++ (among "0123459" ++ digit ||| lit "6" ++ among "0456789" ||| lit "7" ++
    among "0127" ||| lit "8" ++ among "023789") ||| lit "3" ++ (among "012356789" ++ digit |||
    lit "4" ++ among "789") ||| among "45" ++ digits 2 ||| lit "6" ++ (among "012789" ++ digit |||
    among "345" ++ among "123456789" ||| lit "6" ++ among "0135678") ||| lit "7" ++ (lit "0" ++
    among "013456789" ||| among "1237" ++ digit ||| lit "4" ++ among "1235689" ||| lit "5" ++
    among "1234689" ||| lit "6" ++ among "12345789" ||| lit "8" ++ among "12345679" ||| lit "9" ++
    among "12345678") ||| lit "8" ++ (lit "0" ++ among "146789" ||| lit "1" ++ among "012348" |||
    among "248" ++ digit ||| lit "3" ++ among "12345679" ||| lit "5" ++ among "01589" |||
    lit "6" ++ among "0134568" ||| lit "7" ++ among "1245678" ||| lit "9" ++ among "012345678") |||
    lit "9" ++ (among "0124" ++ digit ||| lit "3" ++ among "02346789" ||| lit "5" ++
    among "012345679" ||| lit "60" ||| lit "7" ++ among "0169" ||| lit "8" ++ among "5789" |||
    lit "9" ++ among "023456789"))) ++ digits 4
  lengths := [10]
  localLengths := [7]

/-- The mobile numbers of Dominican Republic. -/
def dominicanRepublicMobile : NumberRange where
  pattern := lit "8" ++ among "024" ++ lit "9" ++ among "23456789" ++ digits 6
  lengths := [10]
  localLengths := [7]

/-- Dominican Republic. -/
def dominicanRepublic : Region where
  id := "DO"
  callingCode := 1
  internationalPrefix := some <| lit "011"
  nationalPrefix := some <| lit "1"
  leadingDigits := some <| lit "8001" ||| lit "8" ++ among "024" ++ lit "9"
  general := {
    pattern := (among "58" ++ digits 2 ||| lit "900") ++ digits 7
    lengths := [10]
    localLengths := [7] }
  services := [(.premiumRate, sharedPremiumRate), (.tollFree, dominicanRepublicTollFree),
    (.personal, sharedPersonal), (.fixedLine, dominicanRepublicFixedLine),
    (.mobile, dominicanRepublicMobile)]

/-- The fixed-line numbers of Grenada. -/
def grenadaFixedLine : NumberRange where
  pattern := lit "473" ++ (lit "2" ++ (lit "3" ++ among "012" ||| lit "69") ||| lit "3" ++
    (lit "2" ++ among "89" ||| lit "86") ||| lit "4" ++ (among "06" ++ lit "8" ||| lit "3" ++
    among "56789" ||| lit "4" ++ among "01234" ||| lit "5" ++ among "59" ||| lit "73" |||
    lit "90") ||| lit "63" ++ among "68" ||| lit "7" ++ (lit "58" ||| lit "84") ||| lit "800" |||
    lit "938") ++ digits 4
  lengths := [10]
  localLengths := [7]

/-- The mobile numbers of Grenada. -/
def grenadaMobile : NumberRange where
  pattern := lit "473" ++ (lit "4" ++ (lit "0" ++ among "2345679" ||| lit "1" ++ among "0456789" |||
    lit "2" ++ among "012345" ||| lit "49" ||| lit "5" ++ among "678") ||| lit "5" ++ (lit "2" ++
    among "01" ||| lit "3" ++ among "345678") ||| lit "901") ++ digits 4
  lengths := [10]
  localLengths := [7]

/-- Grenada. -/
def grenada : Region where
  id := "GD"
  callingCode := 1
  internationalPrefix := some <| lit "011"
  nationalPrefix := some <| group 1 (among "23456789" ++ digits 6) ++ atEnd ||| lit "1"
  prefixRule := some ⟨"473", 1⟩
  leadingDigits := some <| lit "473"
  general := {
    pattern := (lit "473" ||| among "58" ++ digits 2 ||| lit "900") ++ digits 7
    lengths := [10]
    localLengths := [7] }
  services := [(.premiumRate, sharedPremiumRate), (.tollFree, sharedTollFree),
    (.personal, sharedPersonal), (.fixedLine, grenadaFixedLine), (.mobile, grenadaMobile)]

/-- The fixed-line and mobile numbers of Guam. -/
def guamFixedLine : NumberRange where
  pattern := lit "671" ++ (lit "2" ++ digits 2 ||| lit "3" ++ (lit "00" ||| lit "3" ++
    among "39" ||| lit "4" ++ among "349" ||| lit "55" ||| lit "6" ++ among "26") ||| lit "4" ++
    (lit "00" ||| lit "56" ||| lit "7" ++ among "123456789" ||| lit "8" ++ among "023456789") |||
    lit "5" ++ (lit "55" ||| lit "6" ++ among "2345" ||| lit "88") ||| lit "6" ++ (lit "3" ++
    among "234578" ||| lit "4" ++ among "2456789" ||| lit "5" ++ among "34" ||| lit "78" |||
    lit "8" ++ among "2356789") ||| lit "7" ++ (among "0479" ++ lit "7" ||| lit "2" ++
    among "0167" ||| lit "3" ++ among "45" ||| lit "8" ++ among "789") ||| lit "8" ++
    (among "2345789" ++ lit "8" ||| lit "6" ++ among "478") ||| lit "9" ++ (lit "2" ++
    among "29" ||| lit "6" ++ among "79" ||| lit "7" ++ among "1279" ||| lit "8" ++ among "789" |||
    lit "9" ++ among "16789")) ++ digits 4
  lengths := [10]
  localLengths := [7]

/-- Guam. -/
def guam : Region where
  id := "GU"
  callingCode := 1
  internationalPrefix := some <| lit "011"
  nationalPrefix := some <| group 1 (among "23456789" ++ digits 6) ++ atEnd ||| lit "1"
  prefixRule := some ⟨"671", 1⟩
  leadingDigits := some <| lit "671"
  general := {
    pattern := (among "58" ++ digits 2 ||| lit "671" ||| lit "900") ++ digits 7
    lengths := [10]
    localLengths := [7] }
  services := [(.premiumRate, sharedPremiumRate), (.tollFree, sharedTollFree),
    (.personal, sharedPersonal), (.fixedLine, guamFixedLine), (.mobile, guamFixedLine)]

/-- The fixed-line numbers of Jamaica. -/
def jamaicaFixedLine : NumberRange where
  pattern := lit "8766060" ++ digits 3 ||| (lit "658" ++ (lit "2" ++ (among "5678" ++ digit |||
    lit "9" ++ among "012346789") ||| among "3456789" ++ digits 2) ||| lit "876" ++ (lit "52" ++
    among "35" ||| lit "6" ++ (lit "0" ++ among "123579" ||| lit "1" ++ among "02356789" |||
    among "23" ++ digit ||| lit "40" ||| lit "5" ++ among "06" ||| lit "6" ++ among "234589" |||
    lit "7" ++ among "01256789" ||| lit "8" ++ among "04" ||| lit "9" ++ among "456789") |||
    lit "7" ++ (lit "0" ++ among "2345689" ||| among "123456" ++ digit ||| lit "8" ++
    among "056" ||| lit "9" ++ among "45") ||| lit "9" ++ (lit "0" ++ among "12345678" |||
    lit "1" ++ among "02378" ||| among "2345678" ++ digit ||| lit "9" ++ among "23468"))) ++
    digits 4
  lengths := [10]
  localLengths := [7]

/-- The mobile numbers of Jamaica. -/
def jamaicaMobile : NumberRange where
  pattern := (lit "6582" ++ (among "01234" ++ digit ||| lit "95") ||| lit "876" ++ (lit "2" ++
    (lit "0" ++ among "123456789" ||| among "13456789" ++ digit ||| lit "2" ++
    among "013456789") ||| among "348" ++ digits 2 ||| lit "5" ++ (lit "0" ++ among "123456789" |||
    among "123456789" ++ digit) ||| lit "6" ++ (lit "4" ++ among "89" ||| lit "6" ++ among "67") |||
    lit "7" ++ (lit "0" ++ among "07" ||| lit "7" ++ digit ||| lit "8" ++ among "1234789" |||
    lit "9" ++ among "01236789") ||| lit "9" ++ (among "01" ++ lit "9" ||| lit "9" ++
    among "0579"))) ++ digits 4
  lengths := [10]
  localLengths := [7]

/-- Jamaica. -/
def jamaica : Region where
  id := "JM"
  callingCode := 1
  internationalPrefix := some <| lit "011"
  nationalPrefix := some <| lit "1"
  leadingDigits := some <| lit "658" ||| lit "876"
  general := {
    pattern := (among "58" ++ digits 2 ||| lit "658" ||| lit "900") ++ digits 7
    lengths := [10]
    localLengths := [7] }
  services := [(.premiumRate, sharedPremiumRate), (.tollFree, sharedTollFree),
    (.personal, sharedPersonal), (.fixedLine, jamaicaFixedLine), (.mobile, jamaicaMobile)]

/-- The fixed-line numbers of Saint Kitts and Nevis. -/
def saintKittsAndNevisFixedLine : NumberRange where
  pattern := lit "869" ++ (lit "2" ++ (lit "29" ||| lit "36") ||| lit "302" ||| lit "4" ++
    (lit "6" ++ among "0156789" ||| lit "70") ||| lit "56" ++ among "567") ++ digits 4
  lengths := [10]
  localLengths := [7]

/-- The mobile numbers of Saint Kitts and Nevis. -/
def saintKittsAndNevisMobile : NumberRange where
  pattern := lit "869" ++ (lit "48" ++ among "89" ||| lit "55" ++ among "678" ||| lit "66" ++
    digit ||| lit "76" ++ among "0234567") ++ digits 4
  lengths := [10]
  localLengths := [7]

/-- Saint Kitts and Nevis. -/
def saintKittsAndNevis : Region where
  id := "KN"
  callingCode := 1
  internationalPrefix := some <| lit "011"
  nationalPrefix := some <| group 1 (among "234567" ++ digits 6) ++ atEnd ||| lit "1"
  prefixRule := some ⟨"869", 1⟩
  leadingDigits := some <| lit "869"
  general := {
    pattern := (among "58" ++ digits 2 ||| lit "900") ++ digits 7
    lengths := [10]
    localLengths := [7] }
  services := [(.premiumRate, sharedPremiumRate), (.tollFree, sharedTollFree),
    (.personal, sharedPersonal), (.fixedLine, saintKittsAndNevisFixedLine),
    (.mobile, saintKittsAndNevisMobile)]

/-- The premium-rate numbers of Cayman Islands. -/
def caymanIslandsPremiumRate : NumberRange where
  pattern := (lit "345976" ||| lit "900" ++ among "23456789" ++ digits 2) ++ digits 4
  lengths := [10]

/-- The fixed-line numbers of Cayman Islands. -/
def caymanIslandsFixedLine : NumberRange where
  pattern := lit "345" ++ (lit "2" ++ (lit "22" ||| lit "3" ++ among "23" ||| lit "44" |||
    lit "66") ||| lit "333" ||| lit "444" ||| lit "6" ++ (lit "23" ||| lit "38" ||| lit "40") |||
    lit "7" ++ (lit "30" ||| lit "4" ++ among "35679" ||| lit "6" ++ among "6789" ||| lit "77") |||
    lit "8" ++ (lit "00" ||| lit "1" ++ among "45" ||| lit "4" ++ among "89" ||| lit "88") |||
    lit "9" ++ (lit "14" ||| lit "4" ++ among "0356789")) ++ digits 4
  lengths := [10]
  localLengths := [7]

/-- The mobile numbers of Cayman Islands. -/
def caymanIslandsMobile : NumberRange where
  pattern := lit "345" ++ (lit "32" ++ among "123456789" ||| lit "4" ++ (lit "1" ++
    among "23456" ||| lit "2" ++ among "01234") ||| lit "5" ++ (lit "1" ++ among "67" |||
    lit "2" ++ among "5679" ||| lit "4" ++ among "6789" ||| lit "50" ||| lit "76") ||| lit "649" |||
    lit "82" ++ among "56" ||| lit "9" ++ (lit "1" ++ among "679" ||| lit "2" ++
    among "23456789" ||| lit "3" ++ among "06789" ||| lit "90")) ++ digits 4
  lengths := [10]
  localLengths := [7]

/-- Cayman Islands. -/
def caymanIslands : Region where
  id := "KY"
  callingCode := 1
  internationalPrefix := some <| lit "011"
  nationalPrefix := some <| group 1 (among "23456789" ++ digits 6) ++ atEnd ||| lit "1"
  prefixRule := some ⟨"345", 1⟩
  leadingDigits := some <| lit "345"
  general := {
    pattern := (lit "345" ||| among "58" ++ digits 2 ||| lit "900") ++ digits 7
    lengths := [10]
    localLengths := [7] }
  services := [(.premiumRate, caymanIslandsPremiumRate), (.tollFree, sharedTollFree),
    (.personal, sharedPersonal), (.fixedLine, caymanIslandsFixedLine),
    (.mobile, caymanIslandsMobile)]

/-- The fixed-line numbers of Saint Lucia. -/
def saintLuciaFixedLine : NumberRange where
  pattern := lit "758" ++ (lit "234" ||| lit "4" ++ (lit "30" ||| lit "5" ++ digit ||| lit "6" ++
    among "23456789" ||| lit "8" ++ among "012") ||| lit "57" ++ among "012" ||| (lit "63" |||
    lit "75") ++ lit "8") ++ digits 4
  lengths := [10]
  localLengths := [7]

/-- The mobile numbers of Saint Lucia. -/
def saintLuciaMobile : NumberRange where
  pattern := lit "758" ++ (lit "28" ++ among "4567" ||| lit "384" ||| lit "4" ++ (lit "6" ++
    among "01" ||| lit "8" ++ among "456789") ||| lit "5" ++ (lit "1" ++ among "89" ||| lit "20" |||
    lit "84") ||| lit "7" ++ (lit "1" ++ among "23456789" ||| lit "2" ++ digit ||| lit "3" ++
    among "0123") ||| lit "812") ++ digits 4
  lengths := [10]
  localLengths := [7]

/-- Saint Lucia. -/
def saintLucia : Region where
  id := "LC"
  callingCode := 1
  internationalPrefix := some <| lit "011"
  nationalPrefix := some <| group 1 (among "2345678" ++ digits 6) ++ atEnd ||| lit "1"
  prefixRule := some ⟨"758", 1⟩
  leadingDigits := some <| lit "758"
  general := {
    pattern := (among "58" ++ digits 2 ||| lit "758" ||| lit "900") ++ digits 7
    lengths := [10]
    localLengths := [7] }
  services := [(.premiumRate, sharedPremiumRate), (.tollFree, sharedTollFree),
    (.personal, sharedPersonal), (.fixedLine, saintLuciaFixedLine), (.mobile, saintLuciaMobile)]

/-- The fixed-line and mobile numbers of Northern Mariana Islands. -/
def northernMarianaIslandsFixedLine : NumberRange where
  pattern := lit "670" ++ (lit "2" ++ (lit "3" ++ among "34567" ||| lit "56" ||| lit "8" ++
    among "45678") ||| lit "32" ++ among "1238" ||| lit "4" ++ (lit "33" ||| lit "8" ++
    among "348") ||| lit "5" ++ (lit "32" ||| lit "55" ||| lit "88") ||| lit "6" ++ (lit "64" |||
    lit "70" ||| lit "82") ||| lit "78" ++ among "3589" ||| lit "8" ++ among "3456789" ++
    lit "8" ||| lit "989") ++ digits 4
  lengths := [10]
  localLengths := [7]

/-- Northern Mariana Islands. -/
def northernMarianaIslands : Region where
  id := "MP"
  callingCode := 1
  internationalPrefix := some <| lit "011"
  nationalPrefix := some <| group 1 (among "23456789" ++ digits 6) ++ atEnd ||| lit "1"
  prefixRule := some ⟨"670", 1⟩
  leadingDigits := some <| lit "670"
  general := {
    pattern := among "58" ++ digits 9 ||| (lit "67" ||| lit "90") ++ lit "0" ++ digits 7
    lengths := [10]
    localLengths := [7] }
  services := [(.premiumRate, sharedPremiumRate), (.tollFree, sharedTollFree),
    (.personal, sharedPersonal), (.fixedLine, northernMarianaIslandsFixedLine),
    (.mobile, northernMarianaIslandsFixedLine)]

/-- The fixed-line numbers of Montserrat. -/
def montserratFixedLine : NumberRange where
  pattern := lit "6644" ++ (lit "1" ++ among "0123" ||| lit "91") ++ digits 4
  lengths := [10]
  localLengths := [7]

/-- The mobile numbers of Montserrat. -/
def montserratMobile : NumberRange where
  pattern := lit "664" ++ (lit "3" ++ (lit "49" ||| lit "9" ++ among "123456") ||| lit "49" ++
    among "23456") ++ digits 4
  lengths := [10]
  localLengths := [7]

/-- Montserrat. -/
def montserrat : Region where
  id := "MS"
  callingCode := 1
  internationalPrefix := some <| lit "011"
  nationalPrefix := some <| group 1 (among "34" ++ digits 6) ++ atEnd ||| lit "1"
  prefixRule := some ⟨"664", 1⟩
  leadingDigits := some <| lit "664"
  general := {
    pattern := (among "58" ++ digits 2 ||| lit "664" ||| lit "900") ++ digits 7
    lengths := [10]
    localLengths := [7] }
  services := [(.premiumRate, sharedPremiumRate), (.tollFree, sharedTollFree),
    (.personal, sharedPersonal), (.fixedLine, montserratFixedLine), (.mobile, montserratMobile)]

/-- The fixed-line and mobile numbers of Puerto Rico. -/
def puertoRicoFixedLine : NumberRange where
  pattern := (lit "787" ||| lit "939") ++ among "23456789" ++ digits 6
  lengths := [10]
  localLengths := [7]

/-- Puerto Rico. -/
def puertoRico : Region where
  id := "PR"
  callingCode := 1
  internationalPrefix := some <| lit "011"
  nationalPrefix := some <| lit "1"
  leadingDigits := some <| lit "787" ||| lit "939"
  general := {
    pattern := (among "589" ++ digits 2 ||| lit "787") ++ digits 7
    lengths := [10]
    localLengths := [7] }
  services := [(.premiumRate, sharedPremiumRate), (.tollFree, sharedTollFree),
    (.personal, sharedPersonal), (.fixedLine, puertoRicoFixedLine),
    (.mobile, puertoRicoFixedLine)]

/-- The fixed-line numbers of Sint Maarten. -/
def sintMaartenFixedLine : NumberRange where
  pattern := lit "7215" ++ (lit "4" ++ among "2345678" ||| lit "8" ++ among "39" ||| lit "9" ++
    among "056") ++ digits 4
  lengths := [10]
  localLengths := [7]

/-- The mobile numbers of Sint Maarten. -/
def sintMaartenMobile : NumberRange where
  pattern := lit "7215" ++ (lit "1" ++ among "02" ||| lit "2" ++ digit ||| lit "5" ++
    among "034679" ||| lit "8" ++ among "01245678") ++ digits 4
  lengths := [10]
  localLengths := [7]

/-- Sint Maarten. -/
def sintMaarten : Region where
  id := "SX"
  callingCode := 1
  internationalPrefix := some <| lit "011"
  nationalPrefix := some <| group 1 (lit "5" ++ digits 6) ++ atEnd ||| lit "1"
  prefixRule := some ⟨"721", 1⟩
  leadingDigits := some <| lit "721"
  general := {
    pattern := lit "7215" ++ digits 6 ||| (among "58" ++ digits 2 ||| lit "900") ++ digits 7
    lengths := [10]
    localLengths := [7] }
  services := [(.premiumRate, sharedPremiumRate), (.tollFree, sharedTollFree),
    (.personal, sharedPersonal), (.fixedLine, sintMaartenFixedLine), (.mobile, sintMaartenMobile)]

/-- The numbers for internet telephony of Turks and Caicos Islands. -/
def turksAndCaicosIslandsVoip : NumberRange where
  pattern := lit "649" ++ (lit "71" ++ among "01" ||| lit "966") ++ digits 4
  lengths := [10]
  localLengths := [7]

/-- The fixed-line numbers of Turks and Caicos Islands. -/
def turksAndCaicosIslandsFixedLine : NumberRange where
  pattern := lit "649" ++ (lit "266" ||| lit "712" ||| lit "9" ++ (lit "4" ++ digit |||
    lit "50")) ++ digits 4
  lengths := [10]
  localLengths := [7]

/-- The mobile numbers of Turks and Caicos Islands. -/
def turksAndCaicosIslandsMobile : NumberRange where
  pattern := lit "649" ++ (lit "2" ++ (lit "3" ++ among "129" ||| lit "4" ++ among "12345679") |||
    lit "3" ++ digits 2 ||| lit "4" ++ among "34" ++ among "123") ++ digits 4
  lengths := [10]
  localLengths := [7]

/-- Turks and Caicos Islands. -/
def turksAndCaicosIslands : Region where
  id := "TC"
  callingCode := 1
  internationalPrefix := some <| lit "011"
  nationalPrefix := some <| group 1 (among "23479" ++ digits 6) ++ atEnd ||| lit "1"
  prefixRule := some ⟨"649", 1⟩
  leadingDigits := some <| lit "649"
  general := {
    pattern := (among "58" ++ digits 2 ||| lit "649" ||| lit "900") ++ digits 7
    lengths := [10]
    localLengths := [7] }
  services := [(.premiumRate, sharedPremiumRate), (.tollFree, sharedTollFree),
    (.voip, turksAndCaicosIslandsVoip), (.personal, sharedPersonal),
    (.fixedLine, turksAndCaicosIslandsFixedLine), (.mobile, turksAndCaicosIslandsMobile)]

/-- The toll-free numbers of Trinidad and Tobago. -/
def trinidadAndTobagoTollFree : NumberRange where
  pattern := lit "868800" ++ digits 4 ||| lit "8" ++ (lit "00" ||| lit "33" ||| lit "44" |||
    lit "55" ||| lit "66" ||| lit "77" ||| lit "88") ++ among "23456789" ++ digits 6
  lengths := [10]

/-- The voice-mail numbers of Trinidad and Tobago. -/
def trinidadAndTobagoVoicemail : NumberRange where
  pattern := lit "868619" ++ digits 4
  lengths := [10]
  localLengths := [7]

/-- The fixed-line numbers of Trinidad and Tobago. -/
def trinidadAndTobagoFixedLine : NumberRange where
  pattern := lit "868" ++ (lit "2" ++ (lit "01" ||| lit "1" ++ among "56789" ||| among "23" ++
    digit ||| lit "4" ++ among "012") ||| lit "6" ++ (lit "0" ++ among "789" ||| lit "1" ++
    among "02345678" ||| lit "2" ++ among "123456789" ||| among "34569" ++ digit ||| lit "7" ++
    among "012345679") ||| lit "82" ++ among "124") ++ digits 4
  lengths := [10]
  localLengths := [7]

/-- The mobile numbers of Trinidad and Tobago. -/
def trinidadAndTobagoMobile : NumberRange where
  pattern := lit "868" ++ ((lit "2" ++ among "56789" ||| lit "3" ++ digit) ++ digit ||| lit "4" ++
    (lit "3" ++ among "0123456" ||| among "6789" ++ digit) ||| lit "6" ++ (lit "20" ||| lit "78" |||
    lit "8" ++ digit) ||| lit "7" ++ (lit "0" ++ among "123456789" ||| lit "1" ++
    among "023456789" ||| among "23456789" ++ digit)) ++ digits 4
  lengths := [10]
  localLengths := [7]

/-- Trinidad and Tobago. -/
def trinidadAndTobago : Region where
  id := "TT"
  callingCode := 1
  internationalPrefix := some <| lit "011"
  nationalPrefix := some <| group 1 (among "234678" ++ digits 6) ++ atEnd ||| lit "1"
  prefixRule := some ⟨"868", 1⟩
  leadingDigits := some <| lit "868"
  general := {
    pattern := (among "58" ++ digits 2 ||| lit "900") ++ digits 7
    lengths := [10]
    localLengths := [7] }
  services := [(.premiumRate, sharedPremiumRate), (.tollFree, trinidadAndTobagoTollFree),
    (.personal, sharedPersonal), (.voicemail, trinidadAndTobagoVoicemail),
    (.fixedLine, trinidadAndTobagoFixedLine), (.mobile, trinidadAndTobagoMobile)]

/-- The numbers for internet telephony of Saint Vincent and The Grenadines. -/
def saintVincentAndTheGrenadinesVoip : NumberRange where
  pattern := lit "78451" ++ among "012" ++ digits 4
  lengths := [10]
  localLengths := [7]

/-- The fixed-line numbers of Saint Vincent and The Grenadines. -/
def saintVincentAndTheGrenadinesFixedLine : NumberRange where
  pattern := lit "784" ++ (lit "266" ||| lit "3" ++ (lit "6" ++ among "6789" ||| lit "7" ++
    digit ||| lit "8" ++ among "0123456") ||| lit "4" ++ (lit "38" ||| lit "5" ++
    among "0123678" ||| lit "8" ++ among "012345678") ||| lit "5" ++ (lit "55" ||| lit "7" ++
    among "012" ||| lit "93") ||| lit "638" ||| lit "784") ++ digits 4
  lengths := [10]
  localLengths := [7]

/-- The mobile numbers of Saint Vincent and The Grenadines. -/
def saintVincentAndTheGrenadinesMobile : NumberRange where
  pattern := lit "784" ++ (lit "4" ++ (lit "3" ++ among "012345" ||| lit "5" ++ among "45" |||
    lit "89" ||| lit "9" ++ among "012345678") ||| lit "5" ++ (lit "2" ++ among "6789" |||
    lit "3" ++ among "01234") ||| lit "720") ++ digits 4
  lengths := [10]
  localLengths := [7]

/-- Saint Vincent and The Grenadines. -/
def saintVincentAndTheGrenadines : Region where
  id := "VC"
  callingCode := 1
  internationalPrefix := some <| lit "011"
  nationalPrefix := some <| group 1 (among "234567" ++ digits 6) ++ atEnd ||| lit "1"
  prefixRule := some ⟨"784", 1⟩
  leadingDigits := some <| lit "784"
  general := {
    pattern := (among "58" ++ digits 2 ||| lit "784" ||| lit "900") ++ digits 7
    lengths := [10]
    localLengths := [7] }
  services := [(.premiumRate, sharedPremiumRate), (.tollFree, sharedTollFree),
    (.voip, saintVincentAndTheGrenadinesVoip), (.personal, sharedPersonal),
    (.fixedLine, saintVincentAndTheGrenadinesFixedLine),
    (.mobile, saintVincentAndTheGrenadinesMobile)]

/-- The fixed-line numbers of British Virgin Islands. -/
def britishVirginIslandsFixedLine : NumberRange where
  pattern := lit "284" ++ (lit "229" ||| lit "4" ++ (lit "22" ||| lit "9" ++ among "45") |||
    lit "774" ||| lit "8" ++ (lit "52" ||| lit "6" ++ among "459")) ++ digits 4
  lengths := [10]
  localLengths := [7]

/-- The mobile numbers of British Virgin Islands. -/
def britishVirginIslandsMobile : NumberRange where
  pattern := lit "284" ++ (lit "245" ||| lit "3" ++ (lit "0" ++ among "0123" ||| lit "4" ++
    among "01234567" ||| lit "68" ||| lit "9" ++ among "34") ||| lit "4" ++ (lit "4" ++
    among "0123456" ||| lit "68" ||| lit "9" ++ among "69") ||| lit "5" ++ (lit "4" ++
    among "01234567" ||| lit "68" ||| lit "9" ++ among "69")) ++ digits 4
  lengths := [10]
  localLengths := [7]

/-- British Virgin Islands. -/
def britishVirginIslands : Region where
  id := "VG"
  callingCode := 1
  internationalPrefix := some <| lit "011"
  nationalPrefix := some <| group 1 (among "234578" ++ digits 6) ++ atEnd ||| lit "1"
  prefixRule := some ⟨"284", 1⟩
  leadingDigits := some <| lit "284"
  general := {
    pattern := (lit "284" ||| among "58" ++ digits 2 ||| lit "900") ++ digits 7
    lengths := [10]
    localLengths := [7] }
  services := [(.premiumRate, sharedPremiumRate), (.tollFree, sharedTollFree),
    (.personal, sharedPersonal), (.fixedLine, britishVirginIslandsFixedLine),
    (.mobile, britishVirginIslandsMobile)]

/-- The fixed-line and mobile numbers of Virgin Islands of The United States. -/
def virginIslandsOfTheUnitedStatesFixedLine : NumberRange where
  pattern := lit "340" ++ (lit "2" ++ (lit "0" ++ digit ||| lit "10" ||| lit "2" ++ among "0678" |||
    lit "4" ++ among "49" ||| lit "77") ||| lit "3" ++ (lit "32" ||| lit "44") ||| lit "4" ++
    (lit "2" ++ among "23" ||| lit "44" ||| lit "7" ++ among "34" ||| lit "89") ||| lit "5" ++
    (lit "1" ++ among "34" ||| lit "55") ||| lit "6" ++ (lit "2" ++ among "56" ||| lit "4" ++
    among "23" ||| lit "77" ||| lit "9" ++ among "023") ||| lit "7" ++ (lit "1" ++
    among "2345789" ||| lit "2" ++ among "57" ||| lit "7" ++ digit) ||| lit "884" ||| lit "998") ++
    digits 4
  lengths := [10]
  localLengths := [7]

/-- Virgin Islands of The United States. -/
def virginIslandsOfTheUnitedStates : Region where
  id := "VI"
  callingCode := 1
  internationalPrefix := some <| lit "011"
  nationalPrefix := some <| group 1 (among "23456789" ++ digits 6) ++ atEnd ||| lit "1"
  prefixRule := some ⟨"340", 1⟩
  leadingDigits := some <| lit "340"
  general := {
    pattern := among "58" ++ digits 9 ||| (lit "34" ||| lit "90") ++ lit "0" ++ digits 7
    lengths := [10]
    localLengths := [7] }
  services := [(.premiumRate, sharedPremiumRate), (.tollFree, sharedTollFree),
    (.personal, sharedPersonal), (.fixedLine, virginIslandsOfTheUnitedStatesFixedLine),
    (.mobile, virginIslandsOfTheUnitedStatesFixedLine)]

/-- The regions of calling code 1 in the order in which they are searched. -/
def regions : List Region :=
  [unitedStates, antiguaAndBarbuda, anguilla, americanSamoa, barbados, bermuda, bahamas, canada,
   dominica, dominicanRepublic, grenada, guam, jamaica, saintKittsAndNevis, caymanIslands,
   saintLucia, northernMarianaIslands, montserrat, puertoRico, sintMaarten, turksAndCaicosIslands,
   trinidadAndTobago, saintVincentAndTheGrenadines, britishVirginIslands,
   virginIslandsOfTheUnitedStates]

end AssistedDialing.NumberingPlan.NorthAmerica
