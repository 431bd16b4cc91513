import AssistedDialing.Dialled.Extension

/-!
# Viable numbers

A viable text looks like a phone number. It is two digits, or plus signs followed by at least three
digits with punctuation between them, letters only behind the third, and possibly an extension.
-/

namespace AssistedDialing.Dialled

open Text

/-- `isViableBody seen cs` holds when `cs` continues a number of which `seen` digits have been read.
-/
def isViableBody : Nat → List Char → Bool
  | seen, [] => 3 ≤ seen
  | seen, c :: cs =>
      (3 ≤ seen && isExtension (c :: cs)) ||
        (if isDecimal c then isViableBody (seen + 1) cs
         else if isPunctuation c || (3 ≤ seen && isLetter c) then isViableBody seen cs
         else false)

/-- `isTwoDigits cs` holds when `cs` is two digits. -/
def isTwoDigits : List Char → Bool
  | [a, b] => isDecimal a && isDecimal b
  | _ => false

/-- `isViable cs` holds when `cs` looks like a phone number. -/
def isViable (cs : List Char) : Bool :=
  isTwoDigits cs || isViableBody 0 (cs.dropWhile isPlus)

/-- `splitExtension cs` splits a number from its extension, if what stands before is viable. -/
def splitExtension (cs : List Char) : List Char × Option (List Char) :=
  match splitExtension? cs with
  | some (before, digits) => if isViable before then (before, some digits) else (cs, none)
  | none => (cs, none)

end AssistedDialing.Dialled
