/-!
# Searching in text

`splitAtFirst needle cs` finds the first occurrence of one list of characters in another.
-/

namespace AssistedDialing.Text

/-- `splitAtFirst needle cs` is what stands before and behind the first occurrence of `needle` in
`cs`. -/
def splitAtFirst (needle : List Char) : List Char → Option (List Char × List Char)
  | [] => if needle.isEmpty then some ([], []) else none
  | c :: cs =>
      if needle.isPrefixOf (c :: cs) then some ([], (c :: cs).drop needle.length)
      else (splitAtFirst needle cs).map fun (before, behind) ↦ (c :: before, behind)

end AssistedDialing.Text
