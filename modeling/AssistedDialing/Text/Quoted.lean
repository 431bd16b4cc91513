import AssistedDialing.Text.Hexadecimal
import AssistedDialing.Text.UnprintableTable

/-!
# Quoted text

`quoted s` writes a text between quotation marks on one line. Single marks are used unless the text
holds a single and no double mark. The mark in use and the backslash are escaped by a backslash, and
a character without a printed form is written by name (`\n`, `\r`, `\t`) or by code point.
-/

namespace AssistedDialing.Text

/-- `isPrintable c` holds when `c` has a printed form; of the separators only the space has one. -/
def isPrintable (c : Char) : Bool :=
  let code := c.toNat
  if code < 0x7F then 0x20 ≤ code
  else if code ≤ 0xA0 then false
  else !inSpans unprintableSpans code

/-- `escapedCode code` is the shortest of the three escapes `\xNN`, `\uNNNN` and `\UNNNNNNNN` that
can hold `code`. -/
def escapedCode (code : Nat) : List Char :=
  if code < 0x100 then '\\' :: 'x' :: hexDigits 2 code
  else if code < 0x10000 then '\\' :: 'u' :: hexDigits 4 code
  else '\\' :: 'U' :: hexDigits 8 code

/-- `quotedChar mark c` is the form of `c` between two quotation marks `mark`. -/
def quotedChar (mark c : Char) : List Char :=
  if c = mark || c = '\\' then ['\\', c]
  else if c = '\n' then ['\\', 'n']
  else if c = '\r' then ['\\', 'r']
  else if c = '\t' then ['\\', 't']
  else if isPrintable c then [c]
  else escapedCode c.toNat

/-- `quotationMark cs` is the mark that encloses `cs`: a double mark when `cs` holds a single and no
double one. -/
def quotationMark (cs : List Char) : Char :=
  if cs.contains '\'' && !cs.contains '\"' then '\"' else '\''

/-- `quotedChars cs` is `cs` between quotation marks. -/
def quotedChars (cs : List Char) : List Char :=
  let mark := quotationMark cs
  mark :: cs.flatMap (quotedChar mark) ++ [mark]

/-- `quoted s` is the text `s` between quotation marks, on one line. -/
def quoted (s : String) : String :=
  String.ofList (quotedChars s.toList)

@[simp] theorem toList_quoted (s : String) : (quoted s).toList = quotedChars s.toList := by
  simp [quoted]

end AssistedDialing.Text
