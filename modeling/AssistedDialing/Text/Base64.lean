/-!
# Base64

`decodeBase64? cs` reads bytes that are written in groups of four characters of six bits each.
Characters that have no value are skipped, and padding ends the data.
-/

namespace AssistedDialing.Text

/-- `sextet? c` is the value of a character in Base64. -/
def sextet? (c : Char) : Option Nat :=
  let code := c.toNat
  if 65 ≤ code && code ≤ 90 then some (code - 65)
  else if 97 ≤ code && code ≤ 122 then some (code - 71)
  else if 48 ≤ code && code ≤ 57 then some (code + 4)
  else if c == '+' then some 62
  else if c == '/' then some 63
  else none

/-- `sextetsFrom place pads cs` is the values of the characters of `cs`, of which the first has the
given place in its group and follows `pads` pads, and whether the data ends with the end of a
group. -/
def sextetsFrom (place pads : Nat) : List Char → List Nat × Bool
  | [] => ([], place == 0)
  | c :: cs =>
      if c == '=' then
        if 2 ≤ place && 4 ≤ place + pads + 1 then ([], true) else sextetsFrom place (pads + 1) cs
      else match sextet? c with
        | none => sextetsFrom place pads cs
        | some value =>
            let (values, ends) := sextetsFrom ((place + 1) % 4) 0 cs
            (value :: values, ends)

/-- `bytesOfSextets values` packs values of six bits into bytes. Bits that fill no byte are
dropped. -/
def bytesOfSextets : List Nat → List UInt8
  | a :: b :: c :: d :: values =>
      let bits := 64 * (64 * (64 * a + b) + c) + d
      .ofNat (bits / 65536) :: .ofNat (bits / 256 % 256) :: .ofNat (bits % 256) ::
        bytesOfSextets values
  | [a, b, c] =>
      let bits := 64 * (64 * a + b) + c
      [.ofNat (bits / 1024), .ofNat (bits / 4 % 256)]
  | [a, b] => [.ofNat ((64 * a + b) / 16)]
  | _ => []

/-- `decodeBase64? cs` is the bytes that `cs` writes. -/
def decodeBase64? (cs : List Char) : Option (List UInt8) :=
  let (values, ends) := sextetsFrom 0 0 cs
  if ends then some (bytesOfSextets values) else none

end AssistedDialing.Text
