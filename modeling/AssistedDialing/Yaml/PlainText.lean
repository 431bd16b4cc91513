import AssistedDialing.Yaml.Cursor

/-!
# Plain scalars

A scalar without quotation marks ends before a colon or a comment that follows it, and within a flow
collection also before the punctuation of the collection. It may go on over several lines, which are
folded: a single end of a line becomes a space, and of several all but the first are kept.
-/

namespace AssistedDialing.Yaml

/-- `endsPlain flow c next` holds when a plain scalar ends before `c`, which `next` follows. -/
def endsPlain (flow : Bool) (c : Char) (next : Option Char) : Bool :=
  isGap c ||
    (c == ':' && (endsToken next || (flow && next.any (isAmong ",[]\x7b\x7d")))) ||
    (flow && isAmong ",?[]\x7b\x7d" c)

/-- `plainRun flow cs` is the beginning of `cs` up to where a plain scalar ends. -/
def plainRun (flow : Bool) : List Char → List Char
  | [] => []
  | c :: cs => if endsPlain flow c cs.head? then [] else c :: plainRun flow cs

/-- What stands between two runs of a plain scalar: its folded text, unless the document ends there,
the place behind it, and whether a line ends in it. -/
structure PlainGap where
  text : Option (List Char)
  cursor : Cursor
  crossed : Bool
  deriving DecidableEq, Repr, Inhabited

/-- `emptyLines fuel cursor` is the ends of the empty lines that follow, unless the document ends
there, and the place behind the blanks of the line after them. -/
def emptyLines : Nat → Cursor → Option (List Char) × Cursor
  | 0, cursor => (some [], cursor)
  | fuel + 1, cursor =>
      let cursor := cursor.skipSpaces
      match cursor.lineBreak? with
      | none => (some [], cursor)
      | some (c, cursor) =>
          if cursor.isMarker then (none, cursor)
          else
            let (breaks, cursor) := emptyLines fuel cursor
            (breaks.map (c :: ·), cursor)

/-- `foldedBreaks first others` is what the end of a line and those of empty lines fold to. -/
def foldedBreaks (first : Char) (others : List Char) : List Char :=
  if first != '\n' then first :: others
  else if others.isEmpty then [' ']
  else others

/-- `plainGap cursor` reads what stands between two runs of a plain scalar. -/
def plainGap (cursor : Cursor) : PlainGap :=
  let (spaces, cursor) := cursor.takeWhile (· == ' ')
  match cursor.lineBreak? with
  | none => ⟨some spaces, cursor, false⟩
  | some (first, cursor) =>
      if cursor.isMarker then ⟨none, cursor, true⟩
      else
        let (others, cursor) := emptyLines cursor.rest.length cursor
        ⟨others.map (foldedBreaks first), cursor, true⟩

/-- A scalar that was read: its text, the place behind it, and whether a line ends between the two.
-/
structure PlainScalar where
  text : List Char
  cursor : Cursor
  crossed : Bool
  deriving DecidableEq, Repr, Inhabited

/-- `plainFrom fuel flow indent lead cursor` reads a plain scalar from `cursor` on. `lead` is the
text of the gap before it, and a line in a block must be indented by at least `indent`. -/
def plainFrom : Nat → Bool → Int → PlainGap → PlainScalar
  | 0, _, _, lead => ⟨[], lead.cursor, lead.crossed⟩
  | fuel + 1, flow, indent, lead =>
      let run := plainRun flow lead.cursor.rest
      if run.isEmpty || lead.cursor.peek == some '#' then ⟨[], lead.cursor, lead.crossed⟩
      else
        let text := lead.text.getD [] ++ run
        let gap := plainGap (lead.cursor.skip run.length)
        let stops := gap.text.all List.isEmpty ||
          (!flow && (gap.cursor.column : Int) < indent)
        if stops then ⟨text, gap.cursor, gap.crossed⟩
        else
          let more := plainFrom fuel flow indent gap
          ⟨text ++ more.text, more.cursor, more.crossed⟩

/-- `plainScalar flow indent cursor` reads the plain scalar at `cursor`. -/
def plainScalar (flow : Bool) (indent : Int) (cursor : Cursor) : PlainScalar :=
  plainFrom (cursor.rest.length + 1) flow indent ⟨some [], cursor, false⟩

end AssistedDialing.Yaml
