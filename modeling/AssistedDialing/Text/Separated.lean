import AssistedDialing.Text.Blank

/-!
# Comma-separated text

`pieces` cuts a text at its commas and `joinCommas` puts pieces together again. `items` keeps the
pieces that are not blank, stripped.
-/

namespace AssistedDialing.Text

/-- `piecesOf cs` is the non-empty list of the parts of `cs` between its commas. -/
def piecesOf (cs : List Char) : List (List Char) :=
  cs.splitOn ','

/-- `pieces s` is the list of the parts of `s` between its commas; the empty text is one piece. -/
def pieces (s : String) : List String :=
  (piecesOf s.toList).map String.ofList

/-- `joinCommas parts` writes `parts` with commas between them. -/
def joinCommas (parts : List String) : String :=
  ",".intercalate parts

/-- `stripped parts` strips each part and keeps those that are not empty then. -/
def stripped (parts : List String) : List String :=
  (parts.map strip).filter fun part ↦ part ≠ ""

/-- `items s` is the list of the stripped pieces of `s` that are not blank. -/
def items (s : String) : List String :=
  stripped (pieces s)

end AssistedDialing.Text
