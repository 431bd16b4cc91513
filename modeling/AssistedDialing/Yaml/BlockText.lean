import AssistedDialing.Yaml.QuotedText

/-!
# Block scalars

A block scalar is the indented lines that follow its header. In a literal scalar the ends of lines
stay as they are; in a folded one a single end of a line between two lines that begin without a
blank becomes a space. The header says what happens to the ends of lines at the end, and may fix the
indentation.
-/

namespace AssistedDialing.Yaml

/-- What happens to the ends of lines at the end of a block scalar: none is kept, one, or all. -/
inductive Chomping where
  | strip
  | clip
  | keep
  deriving DecidableEq, Repr, Inhabited

/-- The header of a block scalar. -/
structure BlockHeader where
  chomping : Chomping := .clip
  increment : Option Nat := none
  deriving DecidableEq, Repr, Inhabited

/-- `chompingMark? c` is the chomping that a mark in a header asks for. -/
def chompingMark? (c : Option Char) : Option Chomping :=
  if c == some '+' then some .keep else if c == some '-' then some .strip else none

/-- `incrementDigit? c` is the value of a digit in a header. -/
def incrementDigit? (c : Option Char) : Option Nat :=
  match c with
  | some c => if '0' ≤ c && c ≤ '9' then some (c.toNat - 48) else none
  | none => none

/-- `indicators cursor` reads the mark and the digit of a header, in either order. -/
def indicators (cursor : Cursor) : BlockHeader × Cursor :=
  match chompingMark? cursor.peek, incrementDigit? cursor.peek with
  | some chomping, _ =>
      match incrementDigit? cursor.next.peek with
      | some increment => (⟨chomping, some increment⟩, cursor.next.next)
      | none => (⟨chomping, none⟩, cursor.next)
  | none, some increment =>
      match chompingMark? cursor.next.peek with
      | some chomping => (⟨chomping, some increment⟩, cursor.next.next)
      | none => (⟨.clip, some increment⟩, cursor.next)
  | none, none => ({}, cursor)

/-- `blockHeader cursor` reads a header from behind its first character to the end of its line. -/
def blockHeader (cursor : Cursor) : Except Failure (BlockHeader × Cursor) :=
  let (header, cursor) := indicators cursor
  if header.increment == some 0 || !endsWord cursor.peek then .error .malformed
  else match cursor.endLine? with
    | some cursor => .ok (header, cursor)
    | none => .error .malformed

/-- `skipIndent indent cursor` is the place after spaces up to the column `indent`. -/
def skipIndent (indent : Nat) (cursor : Cursor) : Cursor :=
  cursor.skip ((cursor.rest.take (indent - cursor.column)).takeWhile (· == ' ')).length

/-- `blockBreaks fuel indent cursor` is the ends of the empty lines that follow and the place behind
the indentation of the line after them. -/
def blockBreaks : Nat → Nat → Cursor → Part
  | 0, _, cursor => ([], cursor)
  | fuel + 1, indent, cursor =>
      let cursor := skipIndent indent cursor
      match cursor.lineBreak? with
      | none => ([], cursor)
      | some (c, cursor) =>
          let (breaks, cursor) := blockBreaks fuel indent cursor
          (c :: breaks, cursor)

/-- `leadingBreaks fuel cursor` is the ends of the empty lines at the beginning, the greatest column
that their blanks and those of the line after them reach, and the place behind them. -/
def leadingBreaks : Nat → Cursor → List Char × Nat × Cursor
  | 0, cursor => ([], 0, cursor)
  | fuel + 1, cursor =>
      let spaces := (cursor.rest.takeWhile (· == ' ')).length
      let cursor := cursor.skip spaces
      let column := if spaces = 0 then 0 else cursor.column
      match cursor.lineBreak? with
      | none => ([], column, cursor)
      | some (c, cursor) =>
          let (breaks, furthest, cursor) := leadingBreaks fuel cursor
          (c :: breaks, max column furthest, cursor)

/-- `startsBlank next` holds before a blank. -/
def startsBlank (next : Option Char) : Bool :=
  next.any isBlank

/-- A block scalar up to the end of its last line: its text, the end of that line, the ends of the
empty lines after it, and the place behind them. -/
structure BlockBody where
  text : List Char
  lastBreak : List Char
  breaks : List Char
  cursor : Cursor
  deriving DecidableEq, Repr, Inhabited

/-- `joint folded lineBreak blank breaks next` is what stands between two lines, apart from the ends
of empty lines `breaks`. `blank` holds when the first line begins with a blank. -/
def joint (folded : Bool) (lineBreak : List Char) (blank : Bool) (breaks : List Char)
    (next : Option Char) : List Char :=
  if folded && lineBreak == ['\n'] && !blank && !startsBlank next then
    if breaks.isEmpty then [' '] else []
  else lineBreak

/-- `blockLines fuel folded indent lead breaks cursor` reads the lines of a block scalar from
`cursor` on. `lead` and the ends of lines `breaks` stand before the first of them. -/
def blockLines : Nat → Bool → Nat → List Char → List Char → Cursor → BlockBody
  | 0, _, _, _, breaks, cursor => ⟨[], [], breaks, cursor⟩
  | fuel + 1, folded, indent, lead, breaks, cursor =>
      let (line, behind) := cursor.takeWhile fun c ↦ !isBreak c
      let (lineBreak, behind) := match behind.lineBreak? with
        | some (c, behind) => ([c], behind)
        | none => ([], behind)
      let (following, behind) := blockBreaks (behind.rest.length + 1) indent behind
      let text := lead ++ breaks ++ line
      if behind.column = indent && behind.peek.isSome then
        let lead := joint folded lineBreak (startsBlank cursor.peek) following behind.peek
        let more := blockLines fuel folded indent lead following behind
        { more with text := text ++ more.text }
      else ⟨text, lineBreak, following, behind⟩

/-- `blockBody folded indent breaks cursor` reads the lines that are indented by `indent`. -/
def blockBody (folded : Bool) (indent : Nat) (breaks : List Char) (cursor : Cursor) : BlockBody :=
  if cursor.column = indent && cursor.peek.isSome then
    blockLines (cursor.rest.length + 1) folded indent [] breaks cursor
  else ⟨[], [], breaks, cursor⟩

/-- `chomped chomping body` is the text of a block scalar with the ends of lines that are kept. -/
def chomped (chomping : Chomping) (body : BlockBody) : List Char :=
  match chomping with
  | .strip => body.text
  | .clip => body.text ++ body.lastBreak
  | .keep => body.text ++ body.lastBreak ++ body.breaks

/-- `blockScalar folded outer cursor` reads the block scalar at `cursor` within a block that is
indented by `outer`. -/
def blockScalar (folded : Bool) (outer : Int) (cursor : Cursor) : Except Failure Part := do
  let (header, cursor) ← blockHeader cursor.next
  let least := max 1 (outer + 1).toNat
  let (indent, breaks, cursor) := match header.increment with
    | some increment =>
        let indent := least + increment - 1
        (indent, blockBreaks (cursor.rest.length + 1) indent cursor)
    | none =>
        let (breaks, furthest, cursor) := leadingBreaks (cursor.rest.length + 1) cursor
        (max least furthest, breaks, cursor)
  let body := blockBody folded indent breaks cursor
  return (chomped header.chomping body, body.cursor)

end AssistedDialing.Yaml
