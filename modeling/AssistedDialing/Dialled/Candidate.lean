import AssistedDialing.Dialled.Character
import AssistedDialing.Text.Word

/-!
# Candidates for a number

Text around a number is cut off before the number is read. The candidate starts at the first plus
sign or digit, ends before trailing characters that belong to no number, and ends before a second
number that follows a slash.
-/

namespace AssistedDialing.Dialled

open Text

/-- `startsNumber c` holds for the characters that a number can begin with. -/
def startsNumber (c : Char) : Bool :=
  isPlus c || isDecimal c

/-- `isTrailing c` holds for the characters that no number ends with: all but word characters other
than the underscore, and the number sign. -/
def isTrailing (c : Char) : Bool :=
  c == '_' || (c != '#' && !isWord c)

/-- `withoutTrailing cs` drops the trailing characters that belong to no number. -/
def withoutTrailing (cs : List Char) : List Char :=
  (cs.reverse.dropWhile isTrailing).reverse

/-- `beforeSecond cs` is what stands before the first slash or backslash that is followed, possibly
after spaces, by an `x`. -/
def beforeSecond : List Char → List Char
  | [] => []
  | c :: cs =>
      if (c == '/' || c == '\\') && (cs.dropWhile (· == ' ')).head? == some 'x' then []
      else c :: beforeSecond cs

/-- `candidate cs` is the part of `cs` that may be a number. -/
def candidate (cs : List Char) : List Char :=
  beforeSecond (withoutTrailing (cs.dropWhile fun c ↦ !startsNumber c))

end AssistedDialing.Dialled
