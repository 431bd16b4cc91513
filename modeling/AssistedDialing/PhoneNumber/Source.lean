/-!
# Sources of a calling code

A parsed number has its calling code from the digits that were dialled or from the region that was
assumed for it. `CodeSource` tells which.
-/

namespace AssistedDialing

/-- Where the calling code of a number came from. -/
inductive CodeSource where
  | plusSign
  | internationalPrefix
  | withoutPlusSign
  | defaultCountry
  | unspecified
  deriving DecidableEq, Repr, Inhabited

namespace CodeSource

/-- All sources. -/
def all : List CodeSource :=
  [plusSign, internationalPrefix, withoutPlusSign, defaultCountry, unspecified]

/-- `source.text` is the source as reports name it. -/
def text : CodeSource → String
  | plusSign => "from_number_with_plus_sign"
  | internationalPrefix => "from_number_with_idd"
  | withoutPlusSign => "from_number_without_plus_sign"
  | defaultCountry => "from_default_country"
  | unspecified => "unspecified"

/-- `source.symbol` is the source as a constant. -/
def symbol : CodeSource → String
  | plusSign => "FROM_NUMBER_WITH_PLUS_SIGN"
  | internationalPrefix => "FROM_NUMBER_WITH_IDD"
  | withoutPlusSign => "FROM_NUMBER_WITHOUT_PLUS_SIGN"
  | defaultCountry => "FROM_DEFAULT_COUNTRY"
  | unspecified => "UNSPECIFIED"

/-- `ofText? s` is the source that reports name `s`. -/
def ofText? (s : String) : Option CodeSource :=
  all.find? fun source ↦ source.text = s

/-- `source.number` is the number that is assigned to a source. -/
def number : CodeSource → Int
  | unspecified => 0
  | plusSign => 1
  | internationalPrefix => 5
  | withoutPlusSign => 10
  | defaultCountry => 20

/-- `ofNumber n` is the source with the number `n`; a number that is not assigned is unspecified. -/
def ofNumber (n : Int) : CodeSource :=
  if n = 1 then plusSign
  else if n = 5 then internationalPrefix
  else if n = 10 then withoutPlusSign
  else if n = 20 then defaultCountry
  else unspecified

/-- `source.display` is the constant with the name of its kind. -/
def display (source : CodeSource) : String :=
  "CountryCodeSource." ++ source.symbol

/-- `source.quoted` is the constant together with its text. -/
def quoted (source : CodeSource) : String :=
  "<" ++ source.display ++ ": '" ++ source.text ++ "'>"

end CodeSource

end AssistedDialing
