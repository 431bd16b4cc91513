import AssistedDialing.NumberingPlan.Basic

/-!
# The regions of calling codes 33 and 39
-/

namespace AssistedDialing.NumberingPlan.Europe

open Pattern

/-- The numbers that several regions use alike for premium-rate calls. -/
def sharedPremiumRate : NumberRange where
  pattern := (lit "0878" ++ digits 3 ||| lit "89" ++ (lit "2" ++ digit ||| lit "3" ++ among "04" |||
    lit "4" ++ (among "01234" ||| among "56789" ++ digits 2) ||| lit "5" ++ among "01234")) ++
    digits 2 ||| (lit "1" ++ (lit "44" ||| lit "6" ++ among "346") ||| lit "89" ++ (lit "38" |||
    lit "5" ++ among "56789" ||| lit "9")) ++ digits 6
  lengths := [6, 8, 9, 10]

/-- The numbers that several regions use alike for toll-free calls. -/
def sharedTollFree : NumberRange where
  pattern := lit "80" ++ (lit "0" ++ digits 3 ||| lit "3") ++ digits 3
  lengths := [6, 9]

/-- The numbers that several regions use alike for calls at shared cost. -/
def sharedSharedCost : NumberRange where
  pattern := lit "84" ++ (among "08" ++ digits 3 ||| among "17") ++ digits 3
  lengths := [6, 9]

/-- The numbers that several regions use alike for internet telephony. -/
def sharedVoip : NumberRange where
  pattern := lit "55" ++ digits 8
  lengths := [10]

/-- The numbers that several regions use alike for personal numbers. -/
def sharedPersonal : NumberRange where
  pattern := lit "1" ++ (lit "78" ++ digit ||| lit "99") ++ digits 6
  lengths := [9, 10]

/-- The numbers that several regions use alike for voice mail. -/
def sharedVoicemail : NumberRange where
  pattern := lit "3" ++ among "2345678" ++ between 9 10 digit
  lengths := [11, 12]

/-- The fixed-line numbers of Italy. -/
def italyFixedLine : NumberRange where
  pattern := lit "0" ++ (lit "669" ++ among "012345679" ++ between 1 6 digit ||| lit "831" ++
    between 2 8 digit) ||| lit "0" ++ (lit "1" ++ (among "0159" ++ digit ||| among "27" ++
    among "12345" ||| lit "31" ||| lit "4" ++ among "1234" ||| lit "6" ++ among "1356" |||
    lit "8" ++ among "23457") ||| lit "2" ++ digits 2 ||| lit "3" ++ (among "0159" ++ digit |||
    lit "2" ++ among "1234" ||| lit "3" ++ among "12" ||| among "48" ++ among "123456" |||
    lit "6" ++ among "23459" ||| lit "7" ++ among "1234567") ||| lit "4" ++ (among "0159" ++
    digit ||| among "23" ++ among "123456789" ||| lit "4" ++ among "245" ||| lit "6" ++
    among "12345" ||| lit "7" ++ among "1234" ||| lit "81") ||| lit "5" ++ (among "0159" ++
    digit ||| lit "2" ++ among "12345" ||| lit "3" ++ among "23456" ||| lit "4" ++
    among "12345679" ||| lit "6" ++ among "456" ||| lit "7" ++ among "1234578" ||| lit "8" ++
    among "345678") ||| lit "6" ++ (among "012345789" ++ digit ||| lit "6" ++ among "012345678") |||
    lit "7" ++ (among "0159" ++ digit ||| lit "2" ++ among "12" ||| lit "3" ++ among "1234567" |||
    lit "4" ++ among "2346" ||| lit "6" ++ among "13569" ||| lit "7" ++ among "13456" |||
    lit "8" ++ among "123459") ||| lit "8" ++ (among "0159" ++ digit ||| lit "2" ++
    among "34578" ||| lit "3" ++ among "2356" ||| among "678" ++ among "12345") ||| lit "9" ++
    (among "0159" ++ digit ||| among "238" ++ among "12345" ||| lit "4" ++ among "12" |||
    lit "6" ++ among "12345678" ||| lit "7" ++ among "123456")) ++ between 2 7 digit
  lengths := [6, 7, 8, 9, 10, 11, 12]

/-- The mobile numbers of Italy. -/
def italyMobile : NumberRange where
  pattern := lit "3" ++ among "23456789" ++ between 7 8 digit ||| (lit "31" ||| lit "43") ++
    digits 8
  lengths := [9, 10]

/-- Italy. -/
def italy : Region where
  id := "IT"
  callingCode := 39
  internationalPrefix := some <| lit "00"
  general := {
    pattern := lit "0" ++ between 5 11 digit ||| lit "1" ++ between 8 10 digit ||| lit "3" ++
      (among "012345678" ++ between 7 10 digit ||| lit "9" ++ between 7 8 digit) ||| (lit "43" |||
      lit "55" ||| lit "70") ++ digits 8 ||| lit "8" ++ digits 5 ++ optional (between 2 4 digit)
    lengths := [6, 7, 8, 9, 10, 11, 12] }
  services := [(.premiumRate, sharedPremiumRate), (.tollFree, sharedTollFree),
    (.sharedCost, sharedSharedCost), (.voip, sharedVoip), (.personal, sharedPersonal),
    (.voicemail, sharedVoicemail), (.fixedLine, italyFixedLine), (.mobile, italyMobile)]

/-- The fixed-line numbers of Vatican City. -/
def vaticanCityFixedLine : NumberRange where
  pattern := lit "06698" ++ between 1 6 digit
  lengths := [6, 7, 8, 9, 10, 11]

/-- The mobile numbers of Vatican City. -/
def vaticanCityMobile : NumberRange where
  pattern := lit "3" ++ among "123456789" ++ digits 8 ||| lit "3" ++ among "23456789" ++
    digits 7
  lengths := [9, 10]

/-- Vatican City. -/
def vaticanCity : Region where
  id := "VA"
  callingCode := 39
  internationalPrefix := some <| lit "00"
  leadingDigits := some <| lit "06698"
  general := {
    pattern := lit "0" ++ between 5 10 digit ||| lit "3" ++ among "012345678" ++
      between 7 10 digit ||| lit "55" ++ digits 8 ||| lit "8" ++ digits 5 ++
      optional (between 2 4 digit) ||| (lit "1" ++ digit ||| lit "39") ++ between 7 8 digit
    lengths := [6, 7, 8, 9, 10, 11, 12] }
  services := [(.premiumRate, sharedPremiumRate), (.tollFree, sharedTollFree),
    (.sharedCost, sharedSharedCost), (.voip, sharedVoip), (.personal, sharedPersonal),
    (.voicemail, sharedVoicemail), (.fixedLine, vaticanCityFixedLine),
    (.mobile, vaticanCityMobile)]

/-- The premium-rate numbers of France. -/
def francePremiumRate : NumberRange where
  pattern := lit "836" ++ (lit "0" ++ among "01236789" ||| among "123456789" ++ digit) ++
    digits 4 ||| lit "8" ++ (lit "1" ++ among "23456789" ||| lit "2" ++ among "234789" |||
    lit "3" ++ among "012345789" ||| among "569" ++ digit ||| lit "8" ++ among "012356789") ++
    digits 6
  lengths := [9]

/-- The toll-free numbers of France. -/
def franceTollFree : NumberRange where
  pattern := lit "80" ++ among "012345" ++ digits 6
  lengths := [9]

/-- The numbers at shared cost of France. -/
def franceSharedCost : NumberRange where
  pattern := lit "8" ++ (lit "1" ++ among "01" ||| lit "2" ++ among "0156" ||| lit "4" ++
    among "024" ||| lit "84") ++ digits 6
  lengths := [9]

/-- The numbers for internet telephony of France. -/
def franceVoip : NumberRange where
  pattern := lit "9" ++ digits 8
  lengths := [9]

/-- The company numbers of France. -/
def franceUniversalAccess : NumberRange where
  pattern := lit "80" ++ among "6789" ++ digits 6
  lengths := [9]

/-- The fixed-line numbers of France. -/
def franceFixedLine : NumberRange where
  pattern := (lit "26" ++ among "013456789" ||| lit "59" ++ among "12356789") ++ digits 6 |||
    (among "13" ++ digit ||| lit "2" ++ among "012345789" ||| lit "4" ++ among "123456789" |||
    lit "5" ++ among "012345678") ++ digits 7
  lengths := [9]

/-- The mobile numbers of France. -/
def franceMobile : NumberRange where
  pattern := (lit "6" ++ (among "01245678" ++ digit ||| lit "3" ++ among "012345678" ||| lit "9" ++
    among "589") ||| lit "7" ++ among "3456789" ++ digit) ++ digits 6
  lengths := [9]

/-- France. -/
def france : Region where
  id := "FR"
  callingCode := 33
  internationalPrefix := some <| lit "00"
  nationalPrefix := some <| lit "0"
  general := {
    pattern := among "123456789" ++ digits 8
    lengths := [9] }
  services := [(.premiumRate, francePremiumRate), (.tollFree, franceTollFree),
    (.sharedCost, franceSharedCost), (.voip, franceVoip),
    (.universalAccess, franceUniversalAccess), (.fixedLine, franceFixedLine),
    (.mobile, franceMobile)]

/-- The regions of calling codes 39 and 33 in the order in which they are searched. -/
def regions : List Region :=
  [italy, vaticanCity, france]

end AssistedDialing.NumberingPlan.Europe
