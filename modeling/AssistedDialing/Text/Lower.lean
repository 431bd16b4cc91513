import AssistedDialing.Text.LowerTable

/-!
# Lower case

`lower` is the full lower-casing of Unicode. Every character is replaced by its lower case, and a
capital sigma by the small sigma for the end of a word where it ends one.
-/

namespace AssistedDialing.Text

/-- `isCased c` holds for the characters that have a case. -/
def isCased (c : Char) : Bool :=
  inSpans casedSpans c.toNat

/-- `isCasePassed c` holds for the characters that are passed over beside a sigma. -/
def isCasePassed (c : Char) : Bool :=
  inSpans casePassedSpans c.toNat

/-- `meetsCased cs` holds when the first character of `cs` that is not passed over has a case. -/
def meetsCased (cs : List Char) : Bool :=
  (cs.dropWhile isCasePassed).head?.any isCased

/-- `lowerChar c` is the lower case of a character within a word. -/
def lowerChar (c : Char) : List Char :=
  let code := c.toNat
  if code < 0x80 then [if 65 ≤ code && code ≤ 90 then Char.ofNat (code + 32) else c]
  else if c == '\u0130' then ['i', '\u0307']
  else [Char.ofNat (mapSingle lowerRuns code)]

/-- `lowerFrom before cs` is the lower case of `cs`, where `before` is what precedes it, in reverse.
-/
def lowerFrom (before : List Char) : List Char → List Char
  | [] => []
  | c :: cs =>
      let lowered :=
        if c == '\u03a3' && meetsCased before && !meetsCased cs then ['\u03c2'] else lowerChar c
      lowered ++ lowerFrom (c :: before) cs

/-- `lower s` is the lower case of the text `s`. -/
def lower (s : String) : String :=
  String.ofList (lowerFrom [] s.toList)

end AssistedDialing.Text
