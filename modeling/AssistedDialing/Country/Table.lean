import AssistedDialing.Country.Code
import AssistedDialing.Log.Entry
import AssistedDialing.Text.Separated

/-!
# Tables of supported countries

A `Country.Table` is the set of the countries between which assisted dialing is allowed, as a list
of codes in ascending order. It is built from entries as they were typed: blank entries are ignored,
and each malformed one is ignored with a warning. A `Draft` is a table on the way, with the warnings
until then; `ofEntries` gives the table and `warnings` the log entries. `ofCsv` reads the entries
from a comma-separated text, with a fallback for a blank one.
-/

namespace AssistedDialing.Country

open Text

/-- The name of the logger of this module. -/
def loggerName : String := "assistdial.countries"

/-- The codes that are supported unless others are configured. -/
def defaultCodes : List String :=
  ["CA", "GB", "JP", "MX", "US"]

/-- The countries where assisted dialing is allowed, by code, in ascending order. -/
structure Table where
  codes : List String
  deriving DecidableEq, Repr, Inhabited

/-- `insertCode code codes` adds `code` to an ascending list unless the list has it. -/
def insertCode (code : String) : List String → List String
  | [] => [code]
  | other :: codes =>
      if code < other then code :: other :: codes
      else if code = other then other :: codes
      else other :: insertCode code codes

/-- `isMalformed entry` holds when the entry is not blank and names no country. -/
def isMalformed (entry : Option String) : Bool :=
  normalize entry ≠ "" && !isWellFormed (normalize entry)

/-- `malformedEntry entry` is the warning about a malformed entry, which shows it as it was typed.
-/
def malformedEntry (entry : Option String) : Log.Entry where
  level := Log.Level.warning
  logger := loggerName
  message := "Ignoring malformed country code in allow-list: " ++ quoted (entry.getD "")

/-- A table on the way: the codes of the entries so far and the warnings about them. -/
structure Draft where
  codes : List String := []
  warnings : List Log.Entry := []
  deriving DecidableEq, Repr, Inhabited

namespace Draft

/-- `draft.enter entry` goes on with one entry: a blank one is passed over, and any other gives its
code or a warning. -/
def enter (draft : Draft) (entry : Option String) : Draft :=
  let code := normalize entry
  if code = "" then draft
  else if isCodeLine code then { draft with codes := insertCode code draft.codes }
  else { draft with warnings := draft.warnings ++ [malformedEntry entry] }

/-- `ofEntries entries` enters the entries one by one. -/
def ofEntries (entries : List (Option String)) : Draft :=
  entries.foldl enter {}

end Draft

namespace Table

/-- `ofEntries entries` holds the codes of the entries. -/
def ofEntries (entries : List (Option String)) : Table where
  codes := (Draft.ofEntries entries).codes

/-- `warnings entries` is the warnings about the entries, in order. -/
def warnings (entries : List (Option String)) : List Log.Entry :=
  (Draft.ofEntries entries).warnings

/-- `csvEntries value` is the pieces of a comma-separated text that are not blank. -/
def csvEntries (value : Option String) : List (Option String) :=
  ((pieces (value.getD "")).filter fun piece ↦ strip piece ≠ "").map some

/-- The entries that the fallback consists of by default. -/
def defaultEntries : List (Option String) :=
  defaultCodes.map some

/-- `entriesOrFallback value fallback` is the entries of a comma-separated text, or `fallback` when
it has none. -/
def entriesOrFallback (value : Option String) (fallback : List (Option String)) :
    List (Option String) :=
  let entries := csvEntries value
  if entries.isEmpty then fallback else entries

/-- `ofCsv value fallback` is the table of a comma-separated text, or of `fallback` when the text is
blank. -/
def ofCsv (value : Option String) (fallback : List (Option String)) : Table :=
  ofEntries (entriesOrFallback value fallback)

/-- The report that a blank list is replaced by its fallback. -/
def fallbackEntry : Log.Entry where
  level := Log.Level.debug
  logger := loggerName
  message := "Empty country allow-list, using fallback"

/-- `csvLog value fallback` is the log of building `ofCsv value fallback`. -/
def csvLog (value : Option String) (fallback : List (Option String)) : List Log.Entry :=
  (if (csvEntries value).isEmpty then [fallbackEntry] else []) ++
    warnings (entriesOrFallback value fallback)

/-- `table.isSupported code` holds when the table has the normalised code. -/
def isSupported (table : Table) (code : Option String) : Bool :=
  normalize code ≠ "" && table.codes.contains (normalize code)

/-- `table.containsValue value` holds when `value` is a text that is a supported code. -/
def containsValue (table : Table) : Value → Bool
  | .text code => table.isSupported (some code)
  | _ => false

/-- `table.areSupported home roaming` holds when both codes are given and supported. -/
def areSupported (table : Table) (home roaming : Option String) : Bool :=
  home.getD "" ≠ "" && roaming.getD "" ≠ "" && table.isSupported home && table.isSupported roaming

/-- `table.display` shows the codes of the table. -/
def display (table : Table) : String :=
  "CountryCodeSupportTable(" ++ (Value.list (table.codes.map .text)).literal ++ ")"

end Table

end AssistedDialing.Country
