import AssistedDialing.Text.UpperTable

/-!
# Upper case

`upper` is the full upper-casing of Unicode: every character is replaced by its upper case, which
may be several characters, so `ß` becomes `SS`. The mapping looks at one character at a time.
-/

namespace AssistedDialing.Text

/-- `upperChar c` is the upper case of the character `c`. -/
def upperChar (c : Char) : List Char :=
  let code := c.toNat
  if code < 0x80 then [if 97 ≤ code && code ≤ 122 then Char.ofNat (code - 32) else c]
  else match upperExpansions.lookup code with
    | some codes => codes.map Char.ofNat
    | none => [Char.ofNat (mapSingle upperRuns code)]

/-- `upperChars cs` is the upper case of the characters `cs`, in order. -/
def upperChars (cs : List Char) : List Char :=
  cs.flatMap upperChar

/-- `upper s` is the upper case of the text `s`. -/
def upper (s : String) : String :=
  String.ofList (upperChars s.toList)

@[simp] theorem toList_upper (s : String) : (upper s).toList = upperChars s.toList := by
  simp [upper]

end AssistedDialing.Text
