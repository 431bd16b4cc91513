import AssistedDialing.Country.Location
import AssistedDialing.Country.Table
import AssistedDialing.DigitLimit
import AssistedDialing.Eligibility.Checker
import AssistedDialing.Emergency.Classifier
import AssistedDialing.Settings.ItemList

/-!
# Settings

`Settings` describes the environment in which numbers are checked: the supported countries, further
emergency numbers, and the countries that the SIM and the network report. From the settings come the
table of countries, the location of the device, the classifier of emergency numbers and the checker.
-/

namespace AssistedDialing

/-- An emergency number as it is configured. -/
inductive EmergencyItem where
  | text (value : String)
  | number (value : Int)
  deriving DecidableEq, Repr, Inhabited

namespace EmergencyItem

/-- `item.display` is the item as a text. -/
def display : EmergencyItem → String
  | text value => value
  | number value => Value.intText value

/-- `item.isWritable` holds unless the item is a number of too many digits. -/
def isWritable : EmergencyItem → Bool
  | text _ => true
  | number value => DigitLimit.isWritable value

end EmergencyItem

/-- Checked settings. -/
structure Settings where
  logLevel : String := "INFO"
  jsonLogging : Bool := false
  supportedCountries : ItemList String := .csv (Text.joinCommas Country.defaultCodes)
  extraEmergencyNumbers : ItemList EmergencyItem := .list []
  simCountry : Option String := none
  networkCountry : Option String := none
  deriving DecidableEq, Repr, Inhabited

namespace Settings

/-- `settings.countryList` is the supported countries as a comma-separated text. -/
def countryList (settings : Settings) : String :=
  Text.joinCommas (settings.supportedCountries.items id)

/-- `settings.countryTable` is the table of the supported countries. -/
def countryTable (settings : Settings) : Country.Table :=
  .ofCsv (some settings.countryList) Country.Table.defaultEntries

/-- `settings.countryLog` is the log of building the table of the supported countries. -/
def countryLog (settings : Settings) : List Log.Entry :=
  Country.Table.csvLog (some settings.countryList) Country.Table.defaultEntries

/-- `settings.location` is the countries that the SIM and the network report. -/
def location (settings : Settings) : Country.Location where
  sim := settings.simCountry
  network := settings.networkCountry

/-- `settings.isUsable` holds when all further emergency numbers can be written as texts. Numbers
can be checked under such settings only. -/
def isUsable (settings : Settings) : Bool :=
  match settings.extraEmergencyNumbers with
  | .csv _ => true
  | .list items => items.all EmergencyItem.isWritable

/-- `settings.emergencyClassifier sim network` knows two regions and the further emergency numbers.
-/
def emergencyClassifier (settings : Settings) (sim network : Option String) :
    Emergency.Classifier :=
  .ofRegions sim network (settings.extraEmergencyNumbers.items EmergencyItem.display)

/-- `settings.checker plan sim network` is the checker for two regions. Its collaborators never
fail. -/
def checker (settings : Settings) (plan : NumberingPlan) (sim network : Option String) :
    Eligibility.Checker Empty where
  parser := some (Eligibility.planParser plan)
  table := some settings.countryTable
  emergency := some
    (Eligibility.classifierService plan (settings.emergencyClassifier sim network))
  validator := Eligibility.planValidator plan

end Settings

end AssistedDialing
