import AssistedDialing.Text.Digit

/-!
# Separators in dialled text

A dialled text may hold separators for the eye. `stripSeparators` keeps what is dialled: decimal
digits of any script, the plus sign, the star and the number sign.
-/

namespace AssistedDialing.Emergency

/-- `isDialled c` holds for the characters that are dialled. -/
def isDialled (c : Char) : Bool :=
  Text.isDecimal c || c == '+' || c == '*' || c == '#'

/-- `stripSeparators s` keeps the characters of `s` that are dialled. -/
def stripSeparators (s : String) : String :=
  String.ofList (s.toList.filter isDialled)

@[simp] theorem toList_stripSeparators (s : String) :
    (stripSeparators s).toList = s.toList.filter isDialled := by
  simp [stripSeparators]

theorem stripSeparators_stripSeparators (s : String) :
    stripSeparators (stripSeparators s) = stripSeparators s := by
  simp [stripSeparators]

end AssistedDialing.Emergency
