import AssistedDialing.Text.Blank
import AssistedDialing.Text.Digit

/-!
# Decimal numbers

A `Decimal` keeps the digits it was written with: a coefficient and a power of ten, or an infinity
or a quiet or signalling NaN with a payload. `Decimal.ofText?` reads one and `Decimal.text` writes
it with the same digits, positionally unless the number is an integer with a scale or very small.
-/

namespace AssistedDialing

/-- A decimal number with its exact digits. -/
inductive Decimal where
  | finite (negative : Bool) (digits : List Char) (exponent : Int)
  | infinite (negative : Bool)
  | nan (negative signalling : Bool) (payload : List Char)
  deriving DecidableEq, Repr, Inhabited

namespace Decimal

open Text

/-- `asciiDigits? cs` writes the decimal digits of any script in `cs` as ASCII digits. -/
def asciiDigits? (cs : List Char) : Option (List Char) :=
  cs.mapM fun c ↦ (decimalValue? c).map digitChar

/-- `withoutLeadingZeros cs` drops the zeros before the first other digit; zero itself is one `0`.
-/
def withoutLeadingZeros (cs : List Char) : List Char :=
  match cs.dropWhile (· == '0') with
  | [] => ['0']
  | rest => rest

/-- `lowerAscii c` is the lower case of an ASCII letter. -/
def lowerAscii (c : Char) : Char :=
  if 65 ≤ c.toNat && c.toNat ≤ 90 then Char.ofNat (c.toNat + 32) else c

/-- `exponent? cs` reads what follows the mark of an exponent: a number with an optional sign. -/
def exponent? (cs : List Char) : Option Int :=
  match cs with
  | '-' :: ds => (asciiDigits? ds >>= asciiNumber?).map fun n ↦ -(n : Int)
  | '+' :: ds => (asciiDigits? ds >>= asciiNumber?).map Int.ofNat
  | ds => (asciiDigits? ds >>= asciiNumber?).map Int.ofNat

/-- `numeral? negative cs` reads digits with an optional point and an optional exponent. -/
def numeral? (negative : Bool) (cs : List Char) : Option Decimal := do
  let mantissa := cs.takeWhile fun c ↦ c != 'e' && c != 'E'
  let exponent ← match cs.drop mantissa.length with
    | [] => some 0
    | _ :: rest => exponent? rest
  let whole := mantissa.takeWhile (· != '.')
  let fraction := (mantissa.drop whole.length).drop 1
  let digits ← asciiDigits? (whole ++ fraction)
  if digits.isEmpty then none
  else some (finite negative (withoutLeadingZeros digits) (exponent - fraction.length))

/-- `unsigned? negative cs` reads what follows the sign of a decimal number. -/
def unsigned? (negative : Bool) (cs : List Char) : Option Decimal :=
  let lowered := cs.map lowerAscii
  if lowered = "inf".toList || lowered = "infinity".toList then some (infinite negative)
  else if lowered.take 3 = "nan".toList then
    (asciiDigits? (cs.drop 3)).map fun ds ↦ nan negative false (ds.dropWhile (· == '0'))
  else if lowered.take 4 = "snan".toList then
    (asciiDigits? (cs.drop 4)).map fun ds ↦ nan negative true (ds.dropWhile (· == '0'))
  else numeral? negative cs

/-- `ofText? s` reads a decimal number; blanks around it and underscores within it are allowed. -/
def ofText? (s : String) : Option Decimal :=
  match (trim s.toList).filter (· != '_') with
  | '-' :: cs => unsigned? true cs
  | '+' :: cs => unsigned? false cs
  | cs => unsigned? false cs

/-- `scaled digits exponent` writes `digits * 10 ^ exponent`. The point is set among the digits, or
after at most six zeros, when the exponent is not positive; otherwise one digit stands before the
point and the exponent is written. -/
def scaled (digits : List Char) (exponent : Int) : List Char :=
  let left : Int := exponent + digits.length
  let point : Int := if exponent ≤ 0 && -6 < left then left else 1
  let body :=
    if point ≤ 0 then '0' :: '.' :: (List.replicate (-point).toNat '0' ++ digits)
    else if digits.length ≤ point.toNat then
      digits ++ List.replicate (point.toNat - digits.length) '0'
    else digits.take point.toNat ++ '.' :: digits.drop point.toNat
  if left = point then body
  else
    let shift := left - point
    body ++ 'E' :: (if shift < 0 then '-' else '+') :: Nat.toDigits 10 shift.natAbs

/-- `textChars d` is the written form of `d`. -/
def textChars : Decimal → List Char
  | finite negative digits exponent => (if negative then ['-'] else []) ++ scaled digits exponent
  | infinite negative => (if negative then ['-'] else []) ++ "Infinity".toList
  | nan negative signalling payload =>
      (if negative then ['-'] else []) ++ (if signalling then ['s'] else []) ++
        "NaN".toList ++ payload

/-- `text d` is the written form of `d`. -/
def text (d : Decimal) : String :=
  String.ofList d.textChars

/-- `integerLength d` is the number of digits before the point of a finite decimal number that is
written positionally, or 0 if there are none. -/
def integerLength : Decimal → Nat
  | finite _ digits exponent =>
      if digits.all (· == '0') then 0 else (digits.length + exponent).toNat
  | _ => 0

/-- `truncate? d` is the integer part of a finite decimal number, rounded toward zero. -/
def truncate? (d : Decimal) : Option Int :=
  match d with
  | finite negative digits exponent =>
      if d.integerLength = 0 then some 0
      else (asciiNumber? digits).map fun n ↦
        let magnitude : Nat := n * Nat.pow 10 exponent.toNat / Nat.pow 10 (-exponent).toNat
        if negative then -(magnitude : Int) else magnitude
  | _ => none

end Decimal

end AssistedDialing
