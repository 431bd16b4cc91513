import AssistedDialing.Yaml.BlockText
import AssistedDialing.Yaml.Directive

/-!
# From text to tokens

`Lexed.ofText` cuts a YAML text into tokens. A node may turn out to be the key of a mapping when a
colon follows it on its line, so the lexer remembers where such a node starts and puts the key token
there later. Block collections begin where the indentation grows and end where it falls back.
-/

namespace AssistedDialing.Yaml

/-- A node that may turn out to be a key: the number of tokens before it, whether nothing but a key
may stand there, and where it starts. -/
structure PossibleKey where
  position : Nat
  required : Bool
  start : Cursor
  deriving DecidableEq, Repr, Inhabited

/-- `key.isStale cursor` holds when a colon at `cursor` comes too late. -/
def PossibleKey.isStale (key : PossibleKey) (cursor : Cursor) : Bool :=
  key.start.line != cursor.line || 1024 < cursor.index - key.start.index

/-- The state of the lexer. `keys` holds the possible keys by their depth in flow collections, and
`indents` the columns of the open block collections, the innermost first. -/
structure Lexer where
  cursor : Cursor
  depth : Nat := 0
  indents : List Nat := []
  allowsKey : Bool := true
  keys : List (Nat × PossibleKey) := []
  tokens : List Token := []
  deriving DecidableEq, Repr, Inhabited

namespace Lexer

/-- `lexer.inFlow` holds within a flow collection. -/
def inFlow (lexer : Lexer) : Bool :=
  lexer.depth != 0

/-- `lexer.indent` is the column of the innermost block collection, or -1 outside of all. -/
def indent (lexer : Lexer) : Int :=
  match lexer.indents with
  | column :: _ => column
  | [] => -1

/-- `lexer.add token` puts a token at the end. -/
def add (token : Token) (lexer : Lexer) : Lexer :=
  { lexer with tokens := lexer.tokens ++ [token] }

/-- `lexer.insert position token` puts a token behind the first `position` ones. -/
def insert (position : Nat) (token : Token) (lexer : Lexer) : Lexer :=
  { lexer with tokens := lexer.tokens.take position ++ token :: lexer.tokens.drop position }

/-- `lexer.allowing key` says whether a key may start next. -/
def allowing (key : Bool) (lexer : Lexer) : Lexer :=
  { lexer with allowsKey := key }

/-- `lexer.advance count` is at the place after the next `count` characters. -/
def advance (count : Nat) (lexer : Lexer) : Lexer :=
  { lexer with cursor := lexer.cursor.skip count }

/-- `lexer.dropStale` forgets the possible keys for which a colon would come too late. -/
def dropStale (lexer : Lexer) : Except Failure Lexer :=
  let (stale, fresh) := lexer.keys.partition fun (_, key) ↦ key.isStale lexer.cursor
  if stale.any fun (_, key) ↦ key.required then .error .malformed
  else .ok { lexer with keys := fresh }

/-- `lexer.forgetKey` forgets the possible key at the present depth. -/
def forgetKey (lexer : Lexer) : Except Failure Lexer :=
  match lexer.keys.lookup lexer.depth with
  | none => .ok lexer
  | some key =>
      if key.required then .error .malformed
      else .ok { lexer with keys := lexer.keys.filter fun (depth, _) ↦ depth != lexer.depth }

/-- `lexer.saveKey` remembers that a node starts which may turn out to be a key. -/
def saveKey (lexer : Lexer) : Except Failure Lexer :=
  if !lexer.allowsKey then .ok lexer
  else do
    let required := !lexer.inFlow && lexer.indent == lexer.cursor.column
    let lexer ← lexer.forgetKey
    let key : PossibleKey := ⟨lexer.tokens.length, required, lexer.cursor⟩
    return { lexer with keys := (lexer.depth, key) :: lexer.keys }

/-- `lexer.closeTo column` ends the block collections that are indented further than `column`. -/
def closeTo (column : Int) (lexer : Lexer) : Lexer :=
  if lexer.inFlow then lexer
  else
    let closed := lexer.indents.takeWhile fun indent : Nat ↦ column < (indent : Int)
    { lexer with
      indents := lexer.indents.drop closed.length
      tokens := lexer.tokens ++ closed.map fun _ ↦ Token.blockEnd }

/-- `lexer.openAt column position token` begins a block collection in a block at `column`, unless
the innermost one is there already. Its token is put at `position`. -/
def openAt (column position : Nat) (token : Token) (lexer : Lexer) : Lexer :=
  if !lexer.inFlow && lexer.indent < column then
    { lexer.insert position token with indents := column :: lexer.indents }
  else lexer

/-- `lexer.openHere token` begins a block collection with the next token. -/
def openHere (token : Token) (lexer : Lexer) : Lexer :=
  lexer.openAt lexer.cursor.column lexer.tokens.length token

/-- `skipGapsFrom fuel lexer` is at the beginning of the next token. After the end of a line in a
block a key may start. -/
def skipGapsFrom : Nat → Lexer → Lexer
  | 0, lexer => lexer
  | fuel + 1, lexer =>
      let cursor := lexer.cursor.skipSpaces.skipComment
      match cursor.lineBreak? with
      | none => { lexer with cursor }
      | some (_, cursor) =>
          skipGapsFrom fuel { lexer with cursor, allowsKey := lexer.allowsKey || !lexer.inFlow }

/-- `lexer.skipGaps` is at the beginning of the next token. A text may start with a byte order
mark. -/
def skipGaps (lexer : Lexer) : Lexer :=
  let marked := lexer.cursor.index = 0 && lexer.cursor.peek == some byteOrderMark
  skipGapsFrom (lexer.cursor.rest.length + 1) (if marked then lexer.advance 1 else lexer)

/-- `lexer.leaveBlocks` ends all block collections before a directive, a marker or the end. -/
def leaveBlocks (lexer : Lexer) : Except Failure Lexer := do
  let lexer ← (lexer.closeTo (-1)).forgetKey
  return lexer.allowing false

/-- `lexer.readEnd` reads the end of the text. -/
def readEnd (lexer : Lexer) : Except Failure Lexer := do
  let lexer ← lexer.leaveBlocks
  return { lexer with keys := [] }.add .streamEnd

/-- `lexer.readDirective` reads a directive. -/
def readDirective (lexer : Lexer) : Except Failure Lexer := do
  let lexer ← lexer.leaveBlocks
  let (directive, cursor) ← directive lexer.cursor
  return { lexer with cursor }.add (.directive directive)

/-- `lexer.readMarker token` reads the beginning or the end of a document. -/
def readMarker (token : Token) (lexer : Lexer) : Except Failure Lexer := do
  let lexer ← lexer.leaveBlocks
  return (lexer.advance 3).add token

/-- `lexer.openFlow token` reads the beginning of a flow collection. -/
def openFlow (token : Token) (lexer : Lexer) : Except Failure Lexer := do
  let lexer ← lexer.saveKey
  return ({ lexer with depth := lexer.depth + 1 }.allowing true |>.advance 1).add token

/-- `lexer.closeFlow token` reads the end of a flow collection. -/
def closeFlow (token : Token) (lexer : Lexer) : Except Failure Lexer := do
  if !lexer.inFlow then .error .malformed
  let lexer ← lexer.forgetKey
  return ({ lexer with depth := lexer.depth - 1 }.allowing false |>.advance 1).add token

/-- `lexer.readFlowEntry` reads the comma between items of a flow collection. -/
def readFlowEntry (lexer : Lexer) : Except Failure Lexer := do
  let lexer ← (lexer.allowing true).forgetKey
  return (lexer.advance 1).add .flowEntry

/-- `lexer.beginBlock token` begins a block collection, which in a block may only start where a key
may. -/
def beginBlock (token : Token) (lexer : Lexer) : Except Failure Lexer :=
  if lexer.inFlow then .ok lexer
  else if lexer.allowsKey then .ok (lexer.openHere token)
  else .error .malformed

/-- `lexer.readBlockEntry` reads the dash before an item of a block sequence. -/
def readBlockEntry (lexer : Lexer) : Except Failure Lexer := do
  let lexer ← lexer.beginBlock .blockSequenceStart
  let lexer ← (lexer.allowing true).forgetKey
  return (lexer.advance 1).add .blockEntry

/-- `lexer.readKey` reads the question mark before a key. -/
def readKey (lexer : Lexer) : Except Failure Lexer := do
  let lexer ← lexer.beginBlock .blockMappingStart
  let lexer ← (lexer.allowing (!lexer.inFlow)).forgetKey
  return (lexer.advance 1).add .key

/-- `lexer.insertKey key` puts the key token before the node that turned out to be a key, and before
it the beginning of a block mapping if the node is its first key. -/
def insertKey (key : PossibleKey) (lexer : Lexer) : Lexer :=
  { lexer with keys := lexer.keys.filter fun (depth, _) ↦ depth != lexer.depth }
    |>.insert key.position .key
    |>.openAt key.start.column key.position .blockMappingStart
    |>.allowing false

/-- `lexer.readValue` reads the colon before a value. -/
def readValue (lexer : Lexer) : Except Failure Lexer := do
  let lexer ← match lexer.keys.lookup lexer.depth with
    | some key => .ok (lexer.insertKey key)
    | none => (lexer.beginBlock .blockMappingStart).map fun lexer ↦ lexer.allowing (!lexer.inFlow)
  return (lexer.advance 1).add .value

/-- `lexer.readName token` reads the name of an anchor or an alias. -/
def readName (token : String → Token) (lexer : Lexer) : Except Failure Lexer := do
  let lexer ← lexer.saveKey
  let (name, cursor) ← anchorName lexer.cursor.next
  return ({ lexer with cursor }.allowing false).add (token name)

/-- `lexer.readTag` reads a tag. -/
def readTag (lexer : Lexer) : Except Failure Lexer := do
  let lexer ← lexer.saveKey
  let (tag, cursor) ← writtenTag lexer.cursor
  return ({ lexer with cursor }.allowing false).add (.tag tag)

/-- `lexer.readBlockScalar folded` reads a block scalar. -/
def readBlockScalar (folded : Bool) (lexer : Lexer) : Except Failure Lexer := do
  let lexer ← (lexer.allowing true).forgetKey
  let (text, cursor) ← blockScalar folded lexer.indent lexer.cursor
  return { lexer with cursor }.add (.scalar (String.ofList text) false)

/-- `lexer.readQuoted double` reads a quoted scalar. -/
def readQuoted (double : Bool) (lexer : Lexer) : Except Failure Lexer := do
  let lexer ← lexer.saveKey
  let (text, cursor) ← quotedScalar double lexer.cursor
  return ({ lexer with cursor }.allowing false).add (.scalar (String.ofList text) false)

/-- `lexer.readPlain` reads a plain scalar. -/
def readPlain (lexer : Lexer) : Except Failure Lexer := do
  let lexer ← lexer.saveKey
  let scalar := plainScalar lexer.inFlow (lexer.indent + 1) lexer.cursor
  return ({ lexer with cursor := scalar.cursor }.allowing scalar.crossed).add
    (.scalar (String.ofList scalar.text) true)

/-- `startsPlain flow c next` holds when `c`, which `next` follows, can start a plain scalar. -/
def startsPlain (flow : Bool) (c : Char) (next : Option Char) : Bool :=
  !(isGap c || isAmong "-?:,[]\x7b\x7d#&*!|>'\"%@\x60" c) ||
    (!endsToken next && (c == '-' || (!flow && (c == '?' || c == ':'))))

/-- `lexer.readToken` reads the token at the present place. -/
def readToken (lexer : Lexer) : Except Failure Lexer :=
  let cursor := lexer.cursor
  let next := cursor.peekAt 1
  match cursor.peek with
  | none => lexer.readEnd
  | some c =>
      if c == '%' && cursor.column = 0 then lexer.readDirective
      else if cursor.isMarker && cursor.column = 0 then
        lexer.readMarker (if c == '-' then .documentStart else .documentEnd)
      else if c == '[' then lexer.openFlow .flowSequenceStart
      else if c == '\x7b' then lexer.openFlow .flowMappingStart
      else if c == ']' then lexer.closeFlow .flowSequenceEnd
      else if c == '\x7d' then lexer.closeFlow .flowMappingEnd
      else if c == ',' then lexer.readFlowEntry
      else if c == '-' && endsToken next then lexer.readBlockEntry
      else if c == '?' && (lexer.inFlow || endsToken next) then lexer.readKey
      else if c == ':' && (lexer.inFlow || endsToken next) then lexer.readValue
      else if c == '*' then lexer.readName .alias
      else if c == '&' then lexer.readName .anchor
      else if c == '!' then lexer.readTag
      else if c == '|' && !lexer.inFlow then lexer.readBlockScalar false
      else if c == '>' && !lexer.inFlow then lexer.readBlockScalar true
      else if c == '\'' then lexer.readQuoted false
      else if c == '\"' then lexer.readQuoted true
      else if startsPlain lexer.inFlow c next then lexer.readPlain
      else .error .malformed

/-- `lexer.step` reads the next token and what comes before it. -/
def step (lexer : Lexer) : Except Failure Lexer := do
  let lexer ← lexer.skipGaps.dropStale
  (lexer.closeTo lexer.cursor.column).readToken

/-- `lexer.settled` is the tokens that no key token can be put before any more. -/
def settled (lexer : Lexer) : List Token :=
  lexer.tokens.take (lexer.keys.foldl (fun least (_, key) ↦ min least key.position)
    lexer.tokens.length)

end Lexer

/-- The tokens of a text, and why there are no further ones if the text cannot be read to its
end. -/
structure Lexed where
  tokens : List Token
  failure : Option Failure := none
  deriving DecidableEq, Repr, Inhabited

namespace Lexed

/-- `ofLexer fuel lexer` reads tokens up to the end of the text. -/
def ofLexer : Nat → Lexer → Lexed
  | 0, lexer => ⟨lexer.tokens, some .malformed⟩
  | fuel + 1, lexer =>
      match lexer.dropStale with
      | .error failure => ⟨lexer.settled, some failure⟩
      | .ok lexer =>
          match lexer.step with
          | .error failure => ⟨lexer.settled, some failure⟩
          | .ok further =>
              if further.tokens.getLast? == some .streamEnd then ⟨further.tokens, none⟩
              else ofLexer fuel further

/-- `ofText text` cuts a text into tokens. -/
def ofText (text : String) : Lexed :=
  let cs := text.toList
  if cs.all isAllowed then ofLexer (cs.length + 2) { cursor := ⟨cs, 0, 0, 0⟩ }
  else ⟨[], some .malformed⟩

end Lexed

end AssistedDialing.Yaml
