/-!
# Digits of all scripts

A decimal digit is a character of a run of ten that stands for the values 0 to 9 in positional
notation. A digit in the wider sense also has a value from 0 to 9 but no positional use, such as a
superscript or a circled digit. `isDecimal` decides the first, `digitValue?` gives the value of
both.
-/

namespace AssistedDialing.Text

/-- The code points of the decimal digits of value 0, one for each script and style. -/
def decimalZeros : List Nat :=
  [0x30, 0x660, 0x6F0, 0x7C0, 0x966, 0x9E6, 0xA66, 0xAE6, 0xB66, 0xBE6, 0xC66, 0xCE6, 0xD66,
   0xDE6, 0xE50, 0xED0, 0xF20, 0x1040, 0x1090, 0x17E0, 0x1810, 0x1946, 0x19D0, 0x1A80, 0x1A90,
   0x1B50, 0x1BB0, 0x1C40, 0x1C50, 0xA620, 0xA8D0, 0xA900, 0xA9D0, 0xA9F0, 0xAA50, 0xABF0,
   0xFF10, 0x104A0, 0x10D30, 0x11066, 0x110F0, 0x11136, 0x111D0, 0x112F0, 0x11450, 0x114D0,
   0x11650, 0x116C0, 0x11730, 0x118E0, 0x11950, 0x11C50, 0x11D50, 0x11DA0, 0x16A60, 0x16AC0,
   0x16B50, 0x1D7CE, 0x1D7D8, 0x1D7E2, 0x1D7EC, 0x1D7F6, 0x1E140, 0x1E2F0, 0x1E950, 0x1FBF0]

/-- A run of digits that are not decimal: the code points from `first` to `last` stand for `value`,
`value + 1` and so on. -/
structure DigitRun where
  first : Nat
  last : Nat
  value : Nat
  deriving DecidableEq, Repr

/-- The digits that are not decimal digits. -/
def otherDigitRuns : List DigitRun :=
  [⟨0xB2, 0xB3, 2⟩, ⟨0xB9, 0xB9, 1⟩, ⟨0x1369, 0x1371, 1⟩, ⟨0x19DA, 0x19DA, 1⟩, ⟨0x2070, 0x2070, 0⟩,
   ⟨0x2074, 0x2079, 4⟩, ⟨0x2080, 0x2089, 0⟩, ⟨0x2460, 0x2468, 1⟩, ⟨0x2474, 0x247C, 1⟩,
   ⟨0x2488, 0x2490, 1⟩, ⟨0x24EA, 0x24EA, 0⟩, ⟨0x24F5, 0x24FD, 1⟩, ⟨0x24FF, 0x24FF, 0⟩,
   ⟨0x2776, 0x277E, 1⟩, ⟨0x2780, 0x2788, 1⟩, ⟨0x278A, 0x2792, 1⟩, ⟨0x10A40, 0x10A43, 1⟩,
   ⟨0x10E60, 0x10E68, 1⟩, ⟨0x11052, 0x1105A, 1⟩, ⟨0x1F100, 0x1F100, 0⟩, ⟨0x1F101, 0x1F10A, 0⟩]

/-- `decimalIn starts code` is the value of `code` in the run of ten that starts at one of the
ascending `starts`. -/
def decimalIn : List Nat → Nat → Option Nat
  | [], _ => none
  | start :: starts, code =>
      if code < start then none
      else if code < start + 10 then some (code - start)
      else decimalIn starts code

/-- `decimalValue? c` is the value of the decimal digit `c`. -/
def decimalValue? (c : Char) : Option Nat :=
  decimalIn decimalZeros c.toNat

/-- `isDecimal c` holds when `c` is a decimal digit of some script. -/
def isDecimal (c : Char) : Bool :=
  (decimalValue? c).isSome

/-- `isAsciiDigit c` holds for the ten digits of ASCII. -/
def isAsciiDigit (c : Char) : Bool :=
  48 ≤ c.toNat && c.toNat ≤ 57

/-- `isAsciiLetter c` holds for the 52 letters of ASCII. -/
def isAsciiLetter (c : Char) : Bool :=
  (65 ≤ c.toNat && c.toNat ≤ 90) || (97 ≤ c.toNat && c.toNat ≤ 122)

/-- `digitIn runs code` is the value of `code` in the run that contains it. -/
def digitIn (runs : List DigitRun) (code : Nat) : Option Nat :=
  (runs.find? fun run ↦ run.first ≤ code && code ≤ run.last).map fun run ↦
    run.value + (code - run.first)

/-- `digitValue? c` is the value of `c` when `c` is a digit, decimal or not. -/
def digitValue? (c : Char) : Option Nat :=
  match decimalValue? c with
  | some value => some value
  | none => if c.toNat < 0x80 then none else digitIn otherDigitRuns c.toNat

/-- `digitChar value` is the ASCII digit of a value below 10. -/
def digitChar (value : Nat) : Char :=
  Char.ofNat (48 + value)

/-- `decimalDigits width n` is the last `width` decimal digits of `n`. -/
def decimalDigits : Nat → Nat → List Char
  | 0, _ => []
  | width + 1, n => decimalDigits width (n / 10) ++ [digitChar (n % 10)]

/-- `asciiNumber? cs` reads a non-empty run of ASCII digits as a number in base ten. -/
def asciiNumber? (cs : List Char) : Option Nat :=
  if cs.isEmpty || !cs.all isAsciiDigit then none
  else some (cs.foldl (fun n c ↦ 10 * n + (c.toNat - 48)) 0)

end AssistedDialing.Text
