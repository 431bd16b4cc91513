/-!
# Character classes of YAML

The characters that a YAML text may hold, those that end a line, and the classes that decide where a
token ends. The end of the text is `none` and belongs to the classes that a blank belongs to.
-/

namespace AssistedDialing.Yaml

/-- `isAllowed c` holds for the characters that a text may hold. -/
def isAllowed (c : Char) : Bool :=
  let code := c.toNat
  c == '\t' || c == '\n' || c == '\r' || (0x20 ≤ code && code ≤ 0x7E) || code == 0x85 ||
    (0xA0 ≤ code && code ≤ 0xD7FF) || (0xE000 ≤ code && code ≤ 0xFFFD) || 0x10000 ≤ code

/-- The byte order mark. -/
def byteOrderMark : Char := '\uFEFF'

/-- `isBreak c` holds for the characters that end a line. -/
def isBreak (c : Char) : Bool :=
  c == '\n' || c == '\u0085' || c == '\u2028' || c == '\u2029'

/-- `isBlank c` holds for the space and the tab. -/
def isBlank (c : Char) : Bool :=
  c == ' ' || c == '\t'

/-- `isGap c` holds for blanks and the ends of lines. -/
def isGap (c : Char) : Bool :=
  isBlank c || isBreak c

/-- `endsLine next` holds at the end of a line and of the text. -/
def endsLine (next : Option Char) : Bool :=
  next.all isBreak

/-- `endsWord next` holds before a space and at the end of a line. -/
def endsWord (next : Option Char) : Bool :=
  next.all fun c ↦ c == ' ' || isBreak c

/-- `endsToken next` holds before a blank and at the end of a line. -/
def endsToken (next : Option Char) : Bool :=
  next.all isGap

/-- `isNameChar c` holds for the characters of names of anchors, directives and tag handles. -/
def isNameChar (c : Char) : Bool :=
  c.isAlphanum || c == '-' || c == '_'

/-- `isAmong text c` holds when `c` is one of the characters of `text`. -/
def isAmong (text : String) (c : Char) : Bool :=
  text.toList.contains c

end AssistedDialing.Yaml
