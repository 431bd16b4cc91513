/-!
# The limit on decimal digits

Integers of more than `maxDigits` decimal digits are neither read from decimal digits nor written in
them. In other bases they can be read, and it is possible to compute with them.
-/

namespace AssistedDialing.DigitLimit

/-- The greatest number of decimal digits of an integer that is read or written. -/
def maxDigits : Nat := 4300

/-- `isWritable n` holds when `n` has no more than `maxDigits` decimal digits. -/
def isWritable (n : Int) : Bool :=
  decide (n.natAbs < Nat.pow 10 maxDigits)

/-- The message about an integer that has too many digits to be written. -/
def unwritableText : String :=
  "Exceeds the limit (" ++ toString maxDigits ++ " digits) for integer string conversion; use " ++
    "sys.set_int_max_str_digits() to increase the limit"

/-- `unreadableText count` is the message about an integer with `count` digits, which are too many.
-/
def unreadableText (count : Nat) : String :=
  "Exceeds the limit (" ++ toString maxDigits ++ " digits) for integer string conversion: value " ++
    "has " ++ toString count ++ " digits; use sys.set_int_max_str_digits() to increase the limit"

end AssistedDialing.DigitLimit
