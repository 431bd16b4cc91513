import AssistedDialing.Text.WordTable

/-!
# Words

A word character is a letter or a numeric character of any script, or the underscore.
-/

namespace AssistedDialing.Text

/-- `isWord c` holds when `c` is a letter, a numeric character or an underscore. -/
def isWord (c : Char) : Bool :=
  let code := c.toNat
  if code < 0x80 then
    (48 ≤ code && code ≤ 57) || (65 ≤ code && code ≤ 90) || (97 ≤ code && code ≤ 122) || code == 95
  else inSpans wordSpans code

end AssistedDialing.Text
