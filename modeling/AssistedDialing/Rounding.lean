/-!
# Rounding quotients

`halfEven num den` is the integer nearest to a quotient of natural numbers; of two that are equally
near it is the even one.
-/

namespace AssistedDialing

/-- `halfEven num den` rounds `num / den` to the nearest natural number, ties to the even one. -/
def halfEven (num den : Nat) : Nat :=
  let whole := num / den
  let twice := 2 * (num % den)
  if twice < den then whole
  else if den < twice then whole + 1
  else if whole % 2 = 0 then whole
  else whole + 1

end AssistedDialing
