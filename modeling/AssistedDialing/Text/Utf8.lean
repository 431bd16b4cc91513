import AssistedDialing.Text.Hexadecimal

/-!
# Reading UTF-8

`decodeUtf8` reads bytes as UTF-8 and refuses the first ill-formed sequence. A `Utf8Error` says
which bytes cannot be read and why: a byte that starts no sequence, a sequence that is broken off by
a byte that cannot continue it, or the end of the data within a sequence.
-/

namespace AssistedDialing.Text

/-- The reason why bytes are not UTF-8. -/
inductive Utf8Fault where
  | invalidStart
  | invalidContinuation
  | endOfData
  deriving DecidableEq, Repr

/-- The first ill-formed sequence: its position, its bytes and what is wrong with it. -/
structure Utf8Error where
  position : Nat
  bytes : List UInt8
  fault : Utf8Fault
  deriving DecidableEq, Repr

namespace Utf8Fault

/-- `fault.message` names the fault. -/
def message : Utf8Fault → String
  | invalidStart => "invalid start byte"
  | invalidContinuation => "invalid continuation byte"
  | endOfData => "unexpected end of data"

end Utf8Fault

namespace Utf8Error

/-- `error.message` is the report of an ill-formed sequence of one byte or of several. -/
def message (error : Utf8Error) : String :=
  match error.bytes with
  | [byte] =>
      "'utf-8' codec can't decode byte 0x" ++ String.ofList (hexDigits 2 byte.toNat) ++
        " in position " ++ toString error.position ++ ": " ++ error.fault.message
  | bytes =>
      "'utf-8' codec can't decode bytes in position " ++ toString error.position ++ "-" ++
        toString (error.position + bytes.length - 1) ++ ": " ++ error.fault.message

end Utf8Error

/-- The shape of a sequence by its first byte: how many bytes follow, the range of the second byte
and the bits of the first byte that belong to the code point. -/
structure SequenceShape where
  following : Nat
  least : Nat
  most : Nat
  bits : Nat
  deriving DecidableEq, Repr

/-- `sequenceShape? byte` is the shape of the sequences of several bytes that start with `byte`. The
second byte is limited where the sequence would be longer than needed, a surrogate, or too large. -/
def sequenceShape? (byte : Nat) : Option SequenceShape :=
  if byte < 0xC2 then none
  else if byte < 0xE0 then some ⟨1, 0x80, 0xBF, byte - 0xC0⟩
  else if byte < 0xF0 then
    some ⟨2, if byte = 0xE0 then 0xA0 else 0x80, if byte = 0xED then 0x9F else 0xBF, byte - 0xE0⟩
  else if byte < 0xF5 then
    some ⟨3, if byte = 0xF0 then 0x90 else 0x80, if byte = 0xF4 then 0x8F else 0xBF, byte - 0xF0⟩
  else none

/-- `continuation following least most code bytes` reads the continuation bytes of a sequence, of
which the first lies between `least` and `most`. It gives the code point and the rest, or the number
of bytes read and the fault. -/
def continuation :
    Nat → Nat → Nat → Nat → List UInt8 → Except (Nat × Utf8Fault) (Nat × List UInt8)
  | 0, _, _, code, bytes => .ok (code, bytes)
  | _ + 1, _, _, _, [] => .error (0, .endOfData)
  | following + 1, least, most, code, byte :: bytes =>
      if least ≤ byte.toNat && byte.toNat ≤ most then
        match continuation following 0x80 0xBF (64 * code + (byte.toNat - 0x80)) bytes with
        | .ok result => .ok result
        | .error (count, fault) => .error (count + 1, fault)
      else .error (0, .invalidContinuation)

/-- `decodeFrom fuel position bytes` reads `bytes`, whose first has the given position. -/
def decodeFrom : Nat → Nat → List UInt8 → Except Utf8Error (List Char)
  | 0, _, _ => .ok []
  | _ + 1, _, [] => .ok []
  | fuel + 1, position, byte :: bytes =>
      if byte.toNat < 0x80 then
        (decodeFrom fuel (position + 1) bytes).map (Char.ofNat byte.toNat :: ·)
      else match sequenceShape? byte.toNat with
        | none => .error ⟨position, [byte], .invalidStart⟩
        | some shape =>
            match continuation shape.following shape.least shape.most shape.bits bytes with
            | .error (count, fault) => .error ⟨position, byte :: bytes.take count, fault⟩
            | .ok (code, rest) =>
                (decodeFrom fuel (position + 1 + shape.following) rest).map (Char.ofNat code :: ·)

/-- `decodeUtf8 bytes` is the text whose UTF-8 form is `bytes`. -/
def decodeUtf8 (bytes : List UInt8) : Except Utf8Error String :=
  (decodeFrom bytes.length 0 bytes).map String.ofList

end AssistedDialing.Text
