import AssistedDialing.Text.Digit

/-!
# Characters of dialled text

The characters that people write in phone numbers besides digits: plus signs, punctuation, and the
letters of words such as `ext`, which are compared without regard to case.
-/

namespace AssistedDialing.Dialled

open Text

/-- `isPlus c` holds for the plus sign and its full-width form. -/
def isPlus (c : Char) : Bool :=
  c == '+' || c.toNat == 0xFF0B

/-- `startsWithPlus cs` holds when `cs` begins with a plus sign. -/
def startsWithPlus : List Char → Bool
  | c :: _ => isPlus c
  | [] => false

/-- `isPunctuation c` holds for the characters that may stand anywhere between the digits of a
number, among them `x` for a digit that is not known. -/
def isPunctuation (c : Char) : Bool :=
  let code := c.toNat
  code == 0x20 || (0x28 ≤ code && code ≤ 0x2A) || (0x2D ≤ code && code ≤ 0x2F) || code == 0x58 ||
    code == 0x5B || code == 0x5D || code == 0x78 || code == 0x7E || code == 0xA0 || code == 0xAD ||
    code == 0x200B || (0x2010 ≤ code && code ≤ 0x2015) || code == 0x2053 || code == 0x2060 ||
    code == 0x2212 || code == 0x223C || code == 0x3000 || code == 0x30FC || code == 0xFF08 ||
    code == 0xFF09 || (0xFF0D ≤ code && code ≤ 0xFF0F) || code == 0xFF3B || code == 0xFF3D ||
    code == 0xFF5E

/-- `fold c` is the lower-case letter that `c` stands for where case does not matter. Besides
capital letters this covers the dotless and dotted i, the long s, the Kelvin sign and two old
Cyrillic forms. Other characters are left as they are. -/
def fold (c : Char) : Char :=
  let code := c.toNat
  if 65 ≤ code && code ≤ 90 then Char.ofNat (code + 32)
  else if code < 0x80 then c
  else if code == 0xD3 then Char.ofNat 0xF3
  else if code == 0x130 || code == 0x131 then 'i'
  else if code == 0x17F then 's'
  else if code == 0x212A then 'k'
  else if 0x410 ≤ code && code ≤ 0x42F then Char.ofNat (code + 32)
  else if code == 0x1C81 then Char.ofNat 0x434
  else if code == 0x1C82 then Char.ofNat 0x43E
  else if 0xFF21 ≤ code && code ≤ 0xFF3A then Char.ofNat (code + 32)
  else c

/-- `isLetter c` holds for the letters of ASCII and the characters that stand for one of them. -/
def isLetter (c : Char) : Bool :=
  isAsciiLetter (fold c)

end AssistedDialing.Dialled
