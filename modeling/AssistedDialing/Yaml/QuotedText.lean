import AssistedDialing.Text.Hexadecimal
import AssistedDialing.Yaml.Cursor
import AssistedDialing.Yaml.Failure
import AssistedDialing.Yaml.PlainText

/-!
# Quoted scalars

A scalar between single quotation marks holds a mark as two marks. Between double marks a backslash
starts an escape: a letter, a code point, or the end of a line that is left out. The ends of lines
are folded as in plain scalars. Two code points that are a pair of surrogates are one character.
-/

namespace AssistedDialing.Yaml

open Text

/-- A part of a scalar and the place behind it. -/
abbrev Part := List Char × Cursor

/-- The code points of a part of a scalar and the place behind it. -/
abbrev CodePart := List Nat × Cursor

/-- `codes part` is a part by its code points. -/
def codes (part : Part) : CodePart :=
  (part.1.map Char.toNat, part.2)

/-- `escapedLetter? c` is the character that a backslash and `c` stand for. -/
def escapedLetter? (c : Char) : Option Char :=
  if c == '0' then some '\x00'
  else if c == 'a' then some '\x07'
  else if c == 'b' then some '\x08'
  else if c == 't' || c == '\t' then some '\t'
  else if c == 'n' then some '\n'
  else if c == 'v' then some '\x0b'
  else if c == 'f' then some '\x0c'
  else if c == 'r' then some '\r'
  else if c == 'e' then some '\x1b'
  else if c == ' ' || c == '\"' || c == '\\' || c == '/' then some c
  else if c == 'N' then some '\u0085'
  else if c == '_' then some '\u00a0'
  else if c == 'L' then some '\u2028'
  else if c == 'P' then some '\u2029'
  else none

/-- `codeLength? c` is the number of hexadecimal digits that follow a backslash and `c`. -/
def codeLength? (c : Char) : Option Nat :=
  if c == 'x' then some 2 else if c == 'u' then some 4 else if c == 'U' then some 8 else none

/-- `checkCode code` refuses what is no code point. -/
def checkCode (code : Nat) : Except Failure Nat :=
  if 0x80000000 ≤ code then .error .hugeCharacter
  else if 0x110000 ≤ code then .error .noCharacter
  else .ok code

/-- `isHigh code` holds for the first one of a pair of surrogates. -/
def isHigh (code : Nat) : Bool :=
  0xD800 ≤ code && code < 0xDC00

/-- `isLow code` holds for the second one of a pair of surrogates. -/
def isLow (code : Nat) : Bool :=
  0xDC00 ≤ code && code < 0xE000

/-- `characters codes` is the characters that code points stand for. A surrogate without its partner
is replaced. -/
def characters : List Nat → List Char
  | [] => []
  | [code] => [if isHigh code || isLow code then '\uFFFD' else Char.ofNat code]
  | first :: second :: codes =>
      if isHigh first && isLow second then
        Char.ofNat (0x10000 + 0x400 * (first - 0xD800) + (second - 0xDC00)) :: characters codes
      else
        (if isHigh first || isLow first then '\uFFFD' else Char.ofNat first) ::
          characters (second :: codes)

/-- `quotedBreaks fuel cursor` is the ends of the empty lines that follow and the place behind the
blanks of the line after them. No document may begin or end there. -/
def quotedBreaks : Nat → Cursor → Except Failure Part
  | 0, cursor => .ok ([], cursor)
  | fuel + 1, cursor =>
      if cursor.isMarker then .error .malformed
      else
        let cursor := cursor.skipWhile isBlank
        match cursor.lineBreak? with
        | none => .ok ([], cursor)
        | some (c, cursor) =>
            (quotedBreaks fuel cursor).map fun (breaks, cursor) ↦ (c :: breaks, cursor)

/-- `escape cursor` reads what follows a backslash. -/
def escape (cursor : Cursor) : Except Failure CodePart :=
  match cursor.peek with
  | none => .error .malformed
  | some c =>
      match escapedLetter? c, codeLength? c with
      | some letter, _ => .ok ([letter.toNat], cursor.next)
      | none, some length =>
          let digits := cursor.next.rest.take length
          match hexNumber? digits with
          | some code =>
              if digits.length < length then .error .malformed
              else (checkCode code).map fun code ↦ ([code], cursor.next.skip length)
          | none => .error .malformed
      | none, none =>
          match cursor.lineBreak? with
          | some (_, cursor) => (quotedBreaks (cursor.rest.length + 1) cursor).map codes
          | none => .error .malformed

/-- `quotedGap cursor` reads blanks and the ends of lines within a quoted scalar. -/
def quotedGap (cursor : Cursor) : Except Failure Part :=
  let (blanks, cursor) := cursor.takeWhile isBlank
  match cursor.peek, cursor.lineBreak? with
  | none, _ => .error .malformed
  | some _, none => .ok (blanks, cursor)
  | some _, some (first, cursor) =>
      (quotedBreaks (cursor.rest.length + 1) cursor).map fun (others, cursor) ↦
        (foldedBreaks first others, cursor)

/-- `quotedFrom fuel double cursor` reads a quoted scalar from behind its first mark to behind its
last. -/
def quotedFrom : Nat → Bool → Cursor → Except Failure CodePart
  | 0, _, _ => .error .malformed
  | fuel + 1, double, cursor => do
      let ends := if double then '\"' else '\''
      match cursor.peek with
      | none => .error .malformed
      | some c =>
          if !double && c == '\'' && cursor.peekAt 1 == some '\'' then
            let (text, cursor) ← quotedFrom fuel double (cursor.skip 2)
            return ('\''.toNat :: text, cursor)
          else if c == ends then return ([], cursor.next)
          else
            let (part, cursor) ←
              if double && c == '\\' then escape cursor.next
              else if isGap c then (quotedGap cursor).map codes
              else .ok ([c.toNat], cursor.next)
            let (text, cursor) ← quotedFrom fuel double cursor
            return (part ++ text, cursor)

/-- `quotedScalar double cursor` reads the quoted scalar at `cursor`. -/
def quotedScalar (double : Bool) (cursor : Cursor) : Except Failure Part :=
  (quotedFrom (cursor.rest.length + 1) double cursor.next).map fun (codes, cursor) ↦
    (characters codes, cursor)

end AssistedDialing.Yaml
