import AssistedDialing.Dialled.Character
import AssistedDialing.Text.Upper

/-!
# Digits on the keypad

`normalize` turns what was written into the digits that are dialled. A text with at least three
letters is spelled on the keypad: its letters and ASCII digits are dialled and all else is dropped.
In any other text only digits count, of every script, and letters are dropped.
-/

namespace AssistedDialing.Dialled

open Text

/-- `keyOf c` is the key that a capital letter stands on. -/
def keyOf (c : Char) : Char :=
  if c ≤ 'C' then '2'
  else if c ≤ 'F' then '3'
  else if c ≤ 'I' then '4'
  else if c ≤ 'L' then '5'
  else if c ≤ 'O' then '6'
  else if c ≤ 'S' then '7'
  else if c ≤ 'V' then '8'
  else '9'

/-- `key? c` is the key for a letter in either case or an ASCII digit. -/
def key? (c : Char) : Option Char :=
  match upperChar c with
  | [u] =>
      if isAsciiDigit u then some u
      else if isAsciiLetter u && u.toNat ≤ 90 then some (keyOf u)
      else none
  | _ => none

/-- `digitsOnly cs` is the digits of `cs`, written in ASCII. -/
def digitsOnly (cs : List Char) : List Char :=
  cs.filterMap fun c ↦ (digitValue? c).map digitChar

/-- `isSpelled cs` holds when `cs` is one line with at least three letters of ASCII. -/
def isSpelled (cs : List Char) : Bool :=
  3 ≤ cs.countP isAsciiLetter && !cs.contains '\n'

/-- `normalize cs` is the digits that are dialled for `cs`. -/
def normalize (cs : List Char) : List Char :=
  if isSpelled cs then cs.filterMap key? else digitsOnly cs

end AssistedDialing.Dialled
