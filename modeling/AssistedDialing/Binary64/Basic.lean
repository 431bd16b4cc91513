import AssistedDialing.Rounding

/-!
# Binary floating-point numbers of 64 bits

A finite `Binary64` stands for `significand * 2 ^ exponent` with a sign. Its significand has 53
bits, or fewer at the least exponent -1074, so that zero and the subnormal numbers are included.
`ofRatio` rounds a rational number to the nearest such value, ties to an even significand.
-/

namespace AssistedDialing

/-- A binary64 value: a signed finite number, an infinity, or no number at all. -/
inductive Binary64 where
  | finite (negative : Bool) (significand : Nat) (exponent : Int)
  | infinite (negative : Bool)
  | nan
  deriving DecidableEq, Repr, Inhabited

namespace Binary64

/-- The least exponent of a finite value. -/
def leastExponent : Int := -1074

/-- The greatest exponent of a finite value. -/
def greatestExponent : Int := 971

/-- The least significand of 53 bits. -/
def leastSignificand : Nat := Nat.pow 2 52

/-- `scaleUp n e` is `n * 2 ^ e` for a non-negative `e`, and `n` otherwise. -/
def scaleUp (n : Nat) (e : Int) : Nat :=
  n * Nat.pow 2 e.toNat

/-- `exponentOf num den` is the exponent at which the quotient `num / den` of positive numbers has a
significand of 53 bits, or the least exponent if that is greater. -/
def exponentOf (num den : Nat) : Int :=
  let guess : Int := (num.log2 : Int) - (den.log2 : Int)
  let exact := if scaleUp den guess ≤ scaleUp num (-guess) then guess else guess - 1
  max leastExponent (exact - 52)

/-- `ofRatio negative num den` is the value nearest to `num / den`, with the given sign. -/
def ofRatio (negative : Bool) (num den : Nat) : Binary64 :=
  if num = 0 || den = 0 then finite negative 0 leastExponent
  else
    let exponent := exponentOf num den
    let significand := halfEven (scaleUp num (-exponent)) (scaleUp den exponent)
    if significand < 2 * leastSignificand then
      if exponent ≤ greatestExponent then finite negative significand exponent
      else infinite negative
    else if exponent + 1 ≤ greatestExponent then finite negative leastSignificand (exponent + 1)
    else infinite negative

/-- `ofScientific negative digits exponent` is the value nearest to `digits * 10 ^ exponent`. Powers
of ten that are out of reach of every finite value are not computed. -/
def ofScientific (negative : Bool) (digits : Nat) (exponent : Int) : Binary64 :=
  let magnitude : Int := (Nat.toDigits 10 digits).length + exponent
  if digits = 0 || magnitude < -400 then finite negative 0 leastExponent
  else if 400 < magnitude then infinite negative
  else ofRatio negative (digits * Nat.pow 10 exponent.toNat) (Nat.pow 10 (-exponent).toNat)

/-- `ratio? x` is the sign, numerator and denominator of a finite value. -/
def ratio? : Binary64 → Option (Bool × Nat × Nat)
  | finite negative significand exponent =>
      some (negative, scaleUp significand exponent, scaleUp 1 (-exponent))
  | _ => none

/-- `truncate? x` is the integer part of a finite value, rounded toward zero. -/
def truncate? (x : Binary64) : Option Int :=
  x.ratio?.map fun (negative, num, den) ↦ if negative then -((num / den : Nat) : Int) else num / den

/-- `integer? x` is the integer that `x` equals, if there is one. -/
def integer? (x : Binary64) : Option Int :=
  match x.ratio? with
  | some (_, num, den) => if num % den = 0 then x.truncate? else none
  | none => none

/-- `negate x` is `x` with the other sign. -/
def negate : Binary64 → Binary64
  | finite negative significand exponent => finite (!negative) significand exponent
  | infinite negative => infinite (!negative)
  | nan => nan

/-- `ofInt n` is the value nearest to an integer. -/
def ofInt (n : Int) : Binary64 :=
  ofRatio (n < 0) n.natAbs 1

/-- `addFinite x y` is the rounded sum of two finite values, and not a number otherwise. -/
def addFinite (x y : Binary64) : Binary64 :=
  match x.ratio?, y.ratio? with
  | some (signX, numX, denX), some (signY, numY, denY) =>
      let signed (sign : Bool) (n : Nat) : Int := if sign then -(n : Int) else n
      let sum := signed signX (numX * denY) + signed signY (numY * denX)
      ofRatio (sum < 0 || (sum = 0 && signX && signY)) sum.natAbs (denX * denY)
  | _, _ => nan

/-- `mulFinite x y` is the rounded product of two finite values, and not a number otherwise. -/
def mulFinite (x y : Binary64) : Binary64 :=
  match x.ratio?, y.ratio? with
  | some (signX, numX, denX), some (signY, numY, denY) =>
      ofRatio (signX != signY) (numX * numY) (denX * denY)
  | _, _ => nan

/-- `isNegative x` holds for a minus sign. -/
def isNegative : Binary64 → Bool
  | finite negative _ _ => negative
  | infinite negative => negative
  | nan => false

/-- `isZero x` holds for the two zeros. -/
def isZero : Binary64 → Bool
  | finite _ significand _ => significand == 0
  | _ => false

/-- `add x y` is the rounded sum. The two infinities have none. -/
def add : Binary64 → Binary64 → Binary64
  | nan, _ => nan
  | _, nan => nan
  | infinite a, infinite b => if a = b then infinite a else nan
  | infinite a, _ => infinite a
  | _, infinite b => infinite b
  | x, y => addFinite x y

/-- `mul x y` is the rounded product. Zero and an infinity have none. -/
def mul : Binary64 → Binary64 → Binary64
  | nan, _ => nan
  | _, nan => nan
  | infinite a, y => if y.isZero then nan else infinite (a != y.isNegative)
  | x, infinite b => if x.isZero then nan else infinite (x.isNegative != b)
  | x, y => mulFinite x y

end Binary64

end AssistedDialing
