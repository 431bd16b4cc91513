import AssistedDialing.Yaml.Character

/-!
# Positions in a YAML text

A `Cursor` is a place in a text: what is left of the text, the number of characters before it, and
the line and the column, from 0. The ends of lines have been unified before, so that a line feed is
never preceded by a carriage return.
-/

namespace AssistedDialing.Yaml

/-- A place in a text. -/
structure Cursor where
  rest : List Char
  index : Nat := 0
  line : Nat := 0
  column : Nat := 0
  deriving DecidableEq, Repr, Inhabited

namespace Cursor

/-- `cursor.peek` is the next character. -/
def peek (cursor : Cursor) : Option Char :=
  cursor.rest.head?

/-- `cursor.peekAt count` is the character after the next `count` ones. -/
def peekAt (cursor : Cursor) (count : Nat) : Option Char :=
  cursor.rest[count]?

/-- `cursor.next` is the place after the next character. A byte order mark has no width. -/
def next (cursor : Cursor) : Cursor :=
  match cursor.rest with
  | [] => cursor
  | c :: rest =>
      if isBreak c then ⟨rest, cursor.index + 1, cursor.line + 1, 0⟩
      else if c == byteOrderMark then ⟨rest, cursor.index + 1, cursor.line, cursor.column⟩
      else ⟨rest, cursor.index + 1, cursor.line, cursor.column + 1⟩

/-- `cursor.skip count` is the place after the next `count` characters. -/
def skip (count : Nat) (cursor : Cursor) : Cursor :=
  match count with
  | 0 => cursor
  | count + 1 => skip count cursor.next

/-- `cursor.skipWhile p` is the place after the next characters that `p` holds for. -/
def skipWhile (p : Char → Bool) (cursor : Cursor) : Cursor :=
  cursor.skip (cursor.rest.takeWhile p).length

/-- `cursor.takeWhile p` is the next characters that `p` holds for, and the place after them. -/
def takeWhile (p : Char → Bool) (cursor : Cursor) : List Char × Cursor :=
  let taken := cursor.rest.takeWhile p
  (taken, cursor.skip taken.length)

/-- `cursor.skipSpaces` is the place after the next spaces. -/
def skipSpaces (cursor : Cursor) : Cursor :=
  cursor.skipWhile (· == ' ')

/-- `cursor.skipComment` is the place after a comment. -/
def skipComment (cursor : Cursor) : Cursor :=
  if cursor.peek == some '#' then cursor.skipWhile fun c ↦ !isBreak c else cursor

/-- `cursor.lineBreak?` is the end of a line, as a line feed if it is one, and the place after it.
-/
def lineBreak? (cursor : Cursor) : Option (Char × Cursor) :=
  match cursor.peek with
  | some c =>
      if c == '\n' || c == '\u0085' then some ('\n', cursor.next)
      else if isBreak c then some (c, cursor.next)
      else none
  | none => none

/-- `cursor.isMarker` holds before a line that begins or ends a document. -/
def isMarker (cursor : Cursor) : Bool :=
  let start := cursor.rest.take 3
  (start == ['-', '-', '-'] || start == ['.', '.', '.']) && endsToken (cursor.peekAt 3)

/-- `cursor.endLine?` is the place after the rest of a line that may hold only a comment. -/
def endLine? (cursor : Cursor) : Option Cursor :=
  let cursor := cursor.skipSpaces.skipComment
  if endsLine cursor.peek then some ((cursor.lineBreak?.map Prod.snd).getD cursor) else none

end Cursor

end AssistedDialing.Yaml
