import AssistedDialing.Binary64.Basic
import AssistedDialing.Decimal
import AssistedDialing.DigitLimit
import AssistedDialing.Text.Lower
import AssistedDialing.Text.Hexadecimal
import AssistedDialing.Yaml.Character
import AssistedDialing.Yaml.Failure

/-!
# Numbers in YAML

`integer` and `float` read the text of a scalar as a number. Underscores are dropped. An integer may
be written in base 2, 8, 10 or 16, and both kinds in base 60 with colons between the digits. Blanks
around the digits are allowed.
-/

namespace AssistedDialing.Yaml

open Text

/-- `digitIn? base c` is the value of `c` as a digit in `base`. -/
def digitIn? (base : Nat) (c : Char) : Option Nat :=
  ((decimalValue? c).or (hexValue? c)).filter (· < base)

/-- `signed cs` is whether `cs` starts with a minus, and `cs` without its sign. -/
def signed (cs : List Char) : Bool × List Char :=
  (cs.head? == some '-', if cs.head?.any (isAmong "+-") then cs.drop 1 else cs)

/-- `withoutMark base cs` drops the mark of a base other than 10 at the beginning of a literal. -/
def withoutMark (base : Nat) (cs : List Char) : List Char :=
  let marks := if base = 2 then "bB" else if base = 8 then "oO" else if base = 16 then "xX" else ""
  match cs with
  | '0' :: c :: rest => if isAmong marks c then rest else cs
  | _ => cs

/-- `isAround c` holds for the blanks that may stand around a number: all but the information
separators. -/
def isAround (c : Char) : Bool :=
  Text.isBlank c && !(0x1C ≤ c.toNat && c.toNat ≤ 0x1F)

/-- `inner cs` is `cs` without the blanks around it. -/
def inner (cs : List Char) : List Char :=
  ((cs.dropWhile isAround).reverse.dropWhile isAround).reverse

/-- `literal base cs` reads digits in `base`, with a sign and the mark of the base if they are
given. -/
def literal (base : Nat) (cs : List Char) : Except Failure Int :=
  let (negative, body) := signed (inner cs)
  let body := withoutMark base body
  let digits := (body.map (digitIn? base)).takeWhile Option.isSome
  if base = 10 && DigitLimit.maxDigits < digits.length then .error (.tooManyDigits digits.length)
  else if digits.isEmpty || digits.length < body.length then
    .error (.notInteger base (String.ofList cs))
  else
    let magnitude := digits.foldl (fun n digit ↦ base * n + digit.getD 0) 0
    .ok (if negative then -(magnitude : Int) else magnitude)

/-- `magnitude cs` reads an integer without its sign in the base that its beginning shows. -/
def magnitude (cs : List Char) : Except Failure Int :=
  match cs with
  | [] => .error .emptyNumber
  | '0' :: 'b' :: digits => literal 2 digits
  | '0' :: 'x' :: digits => literal 16 digits
  | '0' :: _ => literal 8 cs
  | _ => do
      let digits ← (cs.splitOn ':').mapM (literal 10)
      return digits.foldl (fun n digit ↦ 60 * n + digit) 0

/-- `integer text` is the integer that a scalar stands for. -/
def integer (text : String) : Except Failure Int :=
  let (negative, body) := signed (text.toList.filter (· != '_'))
  (magnitude body).map fun n ↦ if negative then -n else n

/-- `floatLiteral cs` reads a decimal number, an infinity or NaN in lower case. -/
def floatLiteral (cs : List Char) : Except Failure Binary64 :=
  let (negative, body) := signed (inner cs)
  if body = "inf".toList || body = "infinity".toList then .ok (.infinite negative)
  else if body = "nan".toList then .ok .nan
  else match Decimal.numeral? negative body with
    | some (.finite negative digits exponent) =>
        .ok (.ofScientific negative ((asciiNumber? digits).getD 0) exponent)
    | _ => .error (.notFloat (String.ofList cs))

/-- `sexagesimal base sum digits` adds the value of digits in base 60 to a sum, where the last one
counts `base`. The digits are given from the last to the first, and each must count a number in
reach of floating point. -/
def sexagesimal : Nat → Binary64 → List Binary64 → Except Failure Binary64
  | _, sum, [] => .ok sum
  | base, sum, digit :: digits =>
      match Binary64.ofInt base with
      | .finite negative significand exponent =>
          sexagesimal (60 * base) (sum.add (digit.mul (.finite negative significand exponent)))
            digits
      | _ => .error .tooManyPlaces

/-- `floatMagnitude cs` reads a floating-point number without its sign. -/
def floatMagnitude (cs : List Char) : Except Failure Binary64 :=
  if cs = ".inf".toList then .ok (.infinite false)
  else if cs = ".nan".toList then .ok .nan
  else do
    let digits ← (cs.splitOn ':').mapM floatLiteral
    match digits with
    | [number] => return number
    | _ => sexagesimal 1 (.ofInt 0) digits.reverse

/-- `float text` is the floating-point number that a scalar stands for. -/
def float (text : String) : Except Failure Binary64 :=
  let cs := (Text.lower (String.ofList (text.toList.filter (· != '_')))).toList
  let (negative, body) := signed cs
  if cs.isEmpty then .error .emptyNumber
  else (floatMagnitude body).map fun x ↦ if negative then x.negate else x

end AssistedDialing.Yaml
