/-!
# Fields of the settings

Each setting has a name, under which a configuration file gives it, and an environment variable that
overrides the file.
-/

namespace AssistedDialing

namespace Settings

/-- A setting. -/
inductive Field where
  | logLevel
  | jsonLogging
  | supportedCountries
  | extraEmergencyNumbers
  | simCountry
  | networkCountry
  deriving DecidableEq, Repr, Inhabited

namespace Field

/-- All settings, in the order in which problems are reported. -/
def all : List Field :=
  [logLevel, jsonLogging, supportedCountries, extraEmergencyNumbers, simCountry, networkCountry]

/-- `field.name` is the name of a setting in a configuration file. -/
def name : Field → String
  | logLevel => "log_level"
  | jsonLogging => "json_logging"
  | supportedCountries => "supported_countries"
  | extraEmergencyNumbers => "extra_emergency_numbers"
  | simCountry => "sim_country"
  | networkCountry => "network_country"

/-- `field.variableName` is the environment variable of a setting. -/
def variableName : Field → String
  | logLevel => "ASSISTDIAL_LOG_LEVEL"
  | jsonLogging => "ASSISTDIAL_JSON_LOGGING"
  | supportedCountries => "ASSISTDIAL_SUPPORTED_COUNTRIES"
  | extraEmergencyNumbers => "ASSISTDIAL_EMERGENCY_NUMBERS"
  | simCountry => "ASSISTDIAL_SIM_COUNTRY"
  | networkCountry => "ASSISTDIAL_NETWORK_COUNTRY"

theorem mem_all (field : Field) : field ∈ all := by
  cases field <;> simp [all]

end Field

end Settings

end AssistedDialing
