/-!
# Hexadecimal numbers

`hex width n` writes a number in lower-case hexadecimal digits, padded with zeros to a least width,
and `hexValue?` reads one digit of either case.
-/

namespace AssistedDialing.Text

/-- `hexDigit value` is the lower-case hexadecimal digit of a value below 16. -/
def hexDigit (value : Nat) : Char :=
  Char.ofNat (if value < 10 then 48 + value else 87 + value)

/-- `hexDigits width n` is the last `width` hexadecimal digits of `n`. -/
def hexDigits : Nat → Nat → List Char
  | 0, _ => []
  | width + 1, n => hexDigits width (n / 16) ++ [hexDigit (n % 16)]

/-- `hexValue? c` is the value of a hexadecimal digit in upper or lower case. -/
def hexValue? (c : Char) : Option Nat :=
  let code := c.toNat
  if 48 ≤ code && code ≤ 57 then some (code - 48)
  else if 65 ≤ code && code ≤ 70 then some (code - 55)
  else if 97 ≤ code && code ≤ 102 then some (code - 87)
  else none

/-- `hexNumber? cs` reads a run of hexadecimal digits; the empty run is 0. -/
def hexNumber? (cs : List Char) : Option Nat :=
  cs.foldl (fun n? c ↦ do return 16 * (← n?) + (← hexValue? c)) (some 0)

end AssistedDialing.Text
