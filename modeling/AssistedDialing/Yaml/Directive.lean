import AssistedDialing.DigitLimit
import AssistedDialing.Text.Digit
import AssistedDialing.Text.Hexadecimal
import AssistedDialing.Text.Utf8
import AssistedDialing.Yaml.Cursor
import AssistedDialing.Yaml.Failure
import AssistedDialing.Yaml.Token

/-!
# Names, tags and directives

The names of anchors and aliases, the tags of nodes, and the directives at the head of a document. A
tag is a handle between exclamation marks and the rest, in which a percent sign escapes a byte.
-/

namespace AssistedDialing.Yaml

open Text

/-- `name cursor` reads a name, which must not be empty. -/
def name (cursor : Cursor) : Except Failure (String × Cursor) :=
  let (chars, cursor) := cursor.takeWhile isNameChar
  if chars.isEmpty then .error .malformed else .ok (String.ofList chars, cursor)

/-- `anchorName cursor` reads the name of an anchor or an alias behind its mark. -/
def anchorName (cursor : Cursor) : Except Failure (String × Cursor) := do
  let (name, cursor) ← name cursor
  if endsToken cursor.peek || cursor.peek.any (isAmong "?:,]\x7d%@\x60") then return (name, cursor)
  else .error .malformed

/-- `isTagChar c` holds for the characters of a tag that stand for themselves. -/
def isTagChar (c : Char) : Bool :=
  c.isAlphanum || isAmong "-;/?:@&=+$,_.!~*'()[]" c

/-- `escapedBytes fuel cursor` reads the bytes that are escaped by percent signs. -/
def escapedBytes : Nat → Cursor → Except Failure (List UInt8 × Cursor)
  | 0, cursor => .ok ([], cursor)
  | fuel + 1, cursor =>
      if cursor.peek != some '%' then .ok ([], cursor)
      else
        let digits := cursor.next.rest.take 2
        match hexNumber? digits with
        | some code =>
            if digits.length < 2 then .error .malformed
            else (escapedBytes fuel (cursor.skip 3)).map fun (bytes, cursor) ↦
              (UInt8.ofNat code :: bytes, cursor)
        | none => .error .malformed

/-- `tagTextFrom fuel cursor` reads the characters of a tag. -/
def tagTextFrom : Nat → Cursor → Except Failure (String × Cursor)
  | 0, cursor => .ok ("", cursor)
  | fuel + 1, cursor =>
      let (chars, cursor) := cursor.takeWhile isTagChar
      if cursor.peek != some '%' then .ok (String.ofList chars, cursor)
      else do
        let (bytes, cursor) ← escapedBytes (cursor.rest.length + 1) cursor
        match decodeUtf8 bytes with
        | .ok escaped =>
            let (rest, cursor) ← tagTextFrom fuel cursor
            return (String.ofList chars ++ escaped ++ rest, cursor)
        | .error _ => .error .malformed

/-- `tagText cursor` reads the characters of a tag, of which there must be some. -/
def tagText (cursor : Cursor) : Except Failure (String × Cursor) :=
  if cursor.peek.any fun c ↦ isTagChar c || c == '%' then
    tagTextFrom (cursor.rest.length + 1) cursor
  else .error .malformed

/-- `tagHandle cursor` reads a handle: an exclamation mark, or a name between two. -/
def tagHandle (cursor : Cursor) : Except Failure (String × Cursor) :=
  if cursor.peek != some '!' then .error .malformed
  else if cursor.peekAt 1 == some ' ' then .ok ("!", cursor.next)
  else
    let (chars, behind) := cursor.next.takeWhile isNameChar
    if behind.peek == some '!' then .ok (String.ofList ('!' :: chars ++ ['!']), behind.next)
    else .error .malformed

/-- `hasHandle cs` holds when a second exclamation mark stands before the next space. -/
def hasHandle (cs : List Char) : Bool :=
  (cs.takeWhile fun c ↦ c != ' ' && !isBreak c).contains '!'

/-- `completeTag cursor` reads a tag between angle brackets from behind the first of them. -/
def completeTag (cursor : Cursor) : Except Failure (WrittenTag × Cursor) := do
  let (suffix, cursor) ← tagText cursor
  if cursor.peek == some '>' then return (⟨none, suffix⟩, cursor.next) else .error .malformed

/-- `shortTag cursor` reads a tag with a handle. -/
def shortTag (cursor : Cursor) : Except Failure (WrittenTag × Cursor) := do
  let (handle, cursor) ←
    if hasHandle (cursor.rest.drop 1) then tagHandle cursor else .ok ("!", cursor.next)
  let (suffix, cursor) ← tagText cursor
  return (⟨some handle, suffix⟩, cursor)

/-- `writtenTag cursor` reads the tag at `cursor`. -/
def writtenTag (cursor : Cursor) : Except Failure (WrittenTag × Cursor) := do
  let (tag, cursor) ←
    if cursor.peekAt 1 == some '<' then completeTag (cursor.skip 2)
    else if endsToken (cursor.peekAt 1) then .ok (⟨none, "!"⟩, cursor.next)
    else shortTag cursor
  if endsWord cursor.peek then return (tag, cursor) else .error .malformed

/-- `versionNumber cursor` reads a number in a version. -/
def versionNumber (cursor : Cursor) : Except Failure (Nat × Cursor) :=
  let (digits, cursor) := cursor.takeWhile isAsciiDigit
  if DigitLimit.maxDigits < digits.length then .error (.tooManyDigits digits.length)
  else match asciiNumber? digits with
    | some n => .ok (n, cursor)
    | none => .error .malformed

/-- `version cursor` reads two numbers with a point between them. -/
def version (cursor : Cursor) : Except Failure (Directive × Cursor) := do
  let (major, cursor) ← versionNumber cursor.skipSpaces
  if cursor.peek != some '.' then .error .malformed
  let (_, cursor) ← versionNumber cursor.next
  if endsWord cursor.peek then return (.version major, cursor) else .error .malformed

/-- `tagDirective cursor` reads a handle and what it stands for. -/
def tagDirective (cursor : Cursor) : Except Failure (Directive × Cursor) := do
  let (handle, cursor) ← tagHandle cursor.skipSpaces
  if cursor.peek != some ' ' then .error .malformed
  let (start, cursor) ← tagText cursor.skipSpaces
  if endsWord cursor.peek then return (.tag handle start, cursor) else .error .malformed

/-- `directive cursor` reads the directive at `cursor` with its line. -/
def directive (cursor : Cursor) : Except Failure (Directive × Cursor) := do
  let (name, cursor) ← name cursor.next
  if !endsWord cursor.peek then .error .malformed
  let (directive, cursor) ←
    if name = "YAML" then version cursor
    else if name = "TAG" then tagDirective cursor
    else .ok (.unknown, cursor.skipWhile fun c ↦ !isBreak c)
  match cursor.endLine? with
  | some cursor => return (directive, cursor)
  | none => .error .malformed

end AssistedDialing.Yaml
