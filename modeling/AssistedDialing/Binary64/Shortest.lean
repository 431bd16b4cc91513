import AssistedDialing.Binary64.Basic

/-!
# Shortest decimal form

The rational numbers that round to one finite `Binary64` form an interval, whose ends belong to it
when the significand is even. `shortest` finds the decimal number with the fewest digits in that
interval and, of those, the nearest to the value. `text` writes it: positionally while the point
stands at most sixteen places after or three places before the first digit, else with an exponent.
-/

namespace AssistedDialing.Binary64

/-- The interval of the rationals that round to a value, all as multiples of one unit `num / den`:
its two ends, the value between them, and whether the ends are included. -/
structure Interval where
  low : Nat
  value : Nat
  high : Nat
  closed : Bool
  num : Nat
  den : Nat
  deriving DecidableEq, Repr

/-- `interval significand exponent` is the interval of a positive finite value. The value below the
least significand of 53 bits lies only half as far away. -/
def interval (significand : Nat) (exponent : Int) : Interval where
  low := if significand = leastSignificand && leastExponent < exponent then 4 * significand - 1
    else 4 * significand - 2
  value := 4 * significand
  high := 4 * significand + 2
  closed := significand % 2 = 0
  num := scaleUp 1 (exponent - 2)
  den := scaleUp 1 (2 - exponent)

/-- `pow10 e` is `10 ^ e` for a non-negative `e`, and 1 otherwise. -/
def pow10 (e : Int) : Nat :=
  Nat.pow 10 e.toNat

namespace Interval

/-- `range.compareAt units digits place` compares `units` multiples of the unit of the interval with
`digits * 10 ^ place`. -/
def compareAt (range : Interval) (units digits : Nat) (place : Int) : Ordering :=
  compare (units * range.num * pow10 (-place)) (digits * pow10 place * range.den)

/-- `range.contains digits place` holds when `digits * 10 ^ place` rounds to the value. -/
def contains (range : Interval) (digits : Nat) (place : Int) : Bool :=
  let low := range.compareAt range.low digits place
  let high := range.compareAt range.high digits place
  (low == .lt || (low == .eq && range.closed)) && (high == .gt || (high == .eq && range.closed))

/-- `range.pointFrom steps point` is the least exponent from `point` on, within `steps`, at which
the power of ten exceeds the value. -/
def pointFrom (range : Interval) : Nat → Int → Int
  | 0, point => point
  | steps + 1, point =>
      if range.compareAt range.value 1 point == .lt then point
      else range.pointFrom steps (point + 1)

/-- `range.at? place` is the multiple of `10 ^ place` next to the value that lies in the interval;
when both neighbours do it is the nearer one, and of two equally near the even one. -/
def at? (range : Interval) (place : Int) : Option Nat :=
  let num := range.value * range.num * pow10 (-place)
  let den := range.den * pow10 place
  let below := num / den
  let nearest := halfEven num den
  let other := if nearest = below then below + 1 else below
  if range.contains nearest place then some nearest
  else if range.contains other place then some other
  else none

/-- `range.search steps place` is the first multiple of a power of ten in the interval, from the
power `place` downward, with its place. -/
def search (range : Interval) : Nat → Int → Nat × Int
  | 0, place => (range.value, place)
  | steps + 1, place =>
      match range.at? place with
      | some digits => (digits, place)
      | none => range.search steps (place - 1)

end Interval

/-- `shortest significand exponent` is the decimal number with the fewest digits that rounds to a
positive finite value, as digits and the power of ten of the last one. -/
def shortest (significand : Nat) (exponent : Int) : Nat × Int :=
  let range := interval significand exponent
  let point := range.pointFrom 640 (-323)
  range.search 17 (point - 1)

/-- `withoutTrailingZeros digits` drops the zeros at the end of a list of digits. -/
def withoutTrailingZeros (digits : List Char) : List Char :=
  (digits.reverse.dropWhile (· == '0')).reverse

/-- `exponentText e` is an exponent with its sign and at least two digits. -/
def exponentText (e : Int) : List Char :=
  let digits := Nat.toDigits 10 e.natAbs
  (if e < 0 then '-' else '+') :: (if digits.length < 2 then '0' :: digits else digits)

/-- `positional digits point` writes `0.digits * 10 ^ point` without an exponent and with at least
one digit on both sides of the point. -/
def positional (digits : List Char) (point : Int) : List Char :=
  if point ≤ 0 then '0' :: '.' :: (List.replicate (-point).toNat '0' ++ digits)
  else
    let whole := digits.take point.toNat
    let zeros := List.replicate (point.toNat - digits.length) '0'
    let fraction := digits.drop point.toNat
    whole ++ zeros ++ '.' :: (if fraction.isEmpty then ['0'] else fraction)

/-- `scientific digits point` writes `0.digits * 10 ^ point` with an exponent. -/
def scientific (digits : List Char) (point : Int) : List Char :=
  let mantissa := match digits with
    | [] => []
    | [d] => [d]
    | d :: ds => d :: '.' :: ds
  mantissa ++ 'e' :: exponentText (point - 1)

/-- `textChars x` writes a value in the fewest digits that read back as the same value. -/
def textChars : Binary64 → List Char
  | nan => "nan".toList
  | infinite negative => if negative then "-inf".toList else "inf".toList
  | finite negative significand exponent =>
      let sign := if negative then ['-'] else []
      if significand = 0 then sign ++ "0.0".toList
      else
        let (number, place) := shortest significand exponent
        let all := Nat.toDigits 10 number
        let point : Int := all.length + place
        let digits := withoutTrailingZeros all
        sign ++
          if -4 < point && point ≤ 16 then positional digits point else scientific digits point

/-- `text x` is the shortest decimal form of `x`. -/
def text (x : Binary64) : String :=
  String.ofList x.textChars

end AssistedDialing.Binary64
