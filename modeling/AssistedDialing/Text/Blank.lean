/-!
# Blanks

A blank is a character that separates words: the Unicode white space together with the four
information separators U+001C to U+001F. `strip` removes the blanks around a text. Zero-width
characters such as U+200B and U+FEFF are not blanks.
-/

namespace AssistedDialing.Text

/-- `isBlank c` holds when `c` is white space or an information separator. -/
def isBlank (c : Char) : Bool :=
  let code := c.toNat
  (0x9 ≤ code && code ≤ 0xD) || (0x1C ≤ code && code ≤ 0x20) || code == 0x85 || code == 0xA0 ||
    code == 0x1680 || (0x2000 ≤ code && code ≤ 0x200A) || code == 0x2028 || code == 0x2029 ||
    code == 0x202F || code == 0x205F || code == 0x3000

/-- `trimStart cs` drops the blanks that `cs` begins with. -/
def trimStart (cs : List Char) : List Char :=
  cs.dropWhile isBlank

/-- `trimEnd cs` drops the blanks that `cs` ends with. -/
def trimEnd (cs : List Char) : List Char :=
  (cs.reverse.dropWhile isBlank).reverse

/-- `trim cs` drops the blanks at both ends of `cs`. -/
def trim (cs : List Char) : List Char :=
  trimEnd (trimStart cs)

/-- `strip s` is `s` without the blanks at its two ends. -/
def strip (s : String) : String :=
  String.ofList (trim s.toList)

@[simp] theorem toList_strip (s : String) : (strip s).toList = trim s.toList := by
  simp [strip]

end AssistedDialing.Text
