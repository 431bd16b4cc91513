import AssistedDialing.Text.Blank
import AssistedDialing.Text.Upper

/-!
# Country codes

Countries are named by codes of two capital letters. `Country.normalize` brings a code as it was
typed into the form in which codes are compared, `Country.isWellFormed` says which texts are codes,
and `Country.isCodeLine` is the test on a normalised code whether it can name a country.
-/

namespace AssistedDialing.Country

open Text

/-- `normalizeChars cs` strips `cs` and changes it to upper case. -/
def normalizeChars (cs : List Char) : List Char :=
  upperChars (trim cs)

/-- `normalizeText code` is `code` stripped and in upper case. -/
def normalizeText (code : String) : String :=
  upper (strip code)

/-- `normalize code` is `code` stripped and in upper case; an absent code is the empty text. -/
def normalize (code : Option String) : String :=
  normalizeText (code.getD "")

@[simp] theorem toList_normalizeText (code : String) :
    (normalizeText code).toList = normalizeChars code.toList := by
  simp [normalizeText, normalizeChars]

/-- `isCapital c` holds for the capital letters of ASCII. -/
def isCapital (c : Char) : Bool :=
  65 ≤ c.toNat && c.toNat ≤ 90

/-- `isWellFormed code` holds when `code` consists of two capital letters. -/
def isWellFormed (code : String) : Bool :=
  match code.toList with
  | [a, b] => isCapital a && isCapital b
  | _ => false

/-- `isLineEnd cs` holds at the end of a text and before a line feed that is its last character. -/
def isLineEnd : List Char → Bool
  | [] => true
  | [c] => c == '\n'
  | _ => false

/-- `isCodeLine text` holds for a line of two capital letters, with or without a line feed at its
end. -/
def isCodeLine (text : String) : Bool :=
  match text.toList with
  | a :: b :: rest => isCapital a && isCapital b && isLineEnd rest
  | _ => false

end AssistedDialing.Country
