import AssistedDialing.Yaml.Lexer
import AssistedDialing.Yaml.Node
import AssistedDialing.Yaml.Resolution

/-!
# From tokens to a document

`Document.ofText` reads the one document of a YAML text as a graph of nodes, or as `none` if the
text holds no document. Collections are read by recursive descent over the tokens, up to a fixed
depth of nesting. An anchor stands for its node from there on, also within the node itself.
-/

namespace AssistedDialing.Yaml

/-- How deep collections can be nested. -/
def maxNesting : Nat :=
  487

/-- What is left of the tokens, why there are no further ones, how many collections enclose the next
token, what the handles of tags stand for, the nodes that have anchors, and all nodes. -/
structure Source where
  tokens : List Token
  failure : Failure := .malformed
  nesting : Nat := 0
  handles : List (String × String) := []
  anchors : List (String × NodeId) := []
  graph : Graph := {}
  deriving Repr, Inhabited

/-- The reading of a part of the tokens. -/
abbrev Reading := StateT Source (Except Failure)

namespace Reading

/-- `malformed` is the failure of a text whose tokens are in no proper order. -/
def malformed {α : Type} : Reading α :=
  throw .malformed

/-- `peek` is the next token. -/
def peek : Reading Token := do
  let source ← get
  match source.tokens with
  | token :: _ => return token
  | [] => throw source.failure

/-- `skip` goes past the next token. -/
def skip : Reading Unit :=
  modify fun source ↦ { source with tokens := source.tokens.drop 1 }

/-- `expect token` goes past the next token, which must be `token`. -/
def expect (token : Token) : Reading Unit := do
  if (← peek) == token then skip else malformed

/-- `nested read` reads the items or pairs of a collection, unless it is nested too deep. -/
def nested {α : Type} (read : Reading α) : Reading α := do
  let source ← get
  if maxNesting ≤ source.nesting then throw .tooDeep
  set { source with nesting := source.nesting + 1 }
  let found ← read
  modify fun after ↦ { after with nesting := source.nesting }
  return found

/-- `add node` adds a node. -/
def add (node : Node) : Reading NodeId :=
  modifyGet fun source ↦
    (source.graph.nodes.size, { source with graph := ⟨source.graph.nodes.push node⟩ })

/-- `replace id node` puts a node in the place of another. -/
def replace (id : NodeId) (node : Node) : Reading Unit :=
  modify fun source ↦ { source with graph := source.graph.set id node }

/-- `unlessBefore ends read` reads a node, or adds an empty node before one of the tokens `ends`. -/
def unlessBefore (ends : List Token) (read : Reading NodeId) : Reading NodeId := do
  if ends.contains (← peek) then add .empty else read

/-- `anchored name` is the node that the anchor `name` stands for. -/
def anchored (name : String) : Reading NodeId := do
  match (← get).anchors.lookup name with
  | some node => return node
  | none => malformed

/-- `declare name? id` lets an anchor that is not used yet stand for a node. -/
def declare (name? : Option String) (id : NodeId) : Reading Unit := do
  match name? with
  | none => return
  | some name =>
      if ((← get).anchors.lookup name).isSome then malformed
      else modify fun source ↦ { source with anchors := (name, id) :: source.anchors }

/-- `tagName tag` is the full name of a tag. -/
def tagName (tag : WrittenTag) : Reading String := do
  match tag.handle with
  | none => return tag.suffix
  | some handle =>
      match (← get).handles.lookup handle with
      | some start => return start ++ tag.suffix
      | none => malformed

end Reading

open Reading

/-- The anchor and the name of the tag of a node, as far as they are given. -/
structure Properties where
  anchor : Option String := none
  tag : Option String := none
  deriving DecidableEq, Repr, Inhabited

namespace Properties

/-- `properties.isEmpty` holds when neither an anchor nor a tag is given. -/
def isEmpty (properties : Properties) : Bool :=
  properties.anchor.isNone && properties.tag.isNone

/-- `properties.tagOr default` is the tag, or `default` if none is given or the tag `!`. -/
def tagOr (default : Tag) (properties : Properties) : Tag :=
  match properties.tag with
  | none => default
  | some name => if name = "!" then default else .ofName name

/-- `properties.scalarTag text plain` is the tag of a scalar. It depends on the form of the text if
the scalar is plain and has no tag, or has the tag `!`. -/
def scalarTag (text : String) (plain : Bool) (properties : Properties) : Tag :=
  if properties.tag.isNone && !plain then .str else properties.tagOr (.ofPlain text)

end Properties

/-- `anchorMark` reads an anchor, if there is one. -/
def anchorMark : Reading (Option String) := do
  match ← peek with
  | .anchor name =>
      skip
      return some name
  | _ => return none

/-- `tagMark` reads a tag, if there is one. -/
def tagMark : Reading (Option WrittenTag) := do
  match ← peek with
  | .tag tag =>
      skip
      return some tag
  | _ => return none

/-- `properties` reads an anchor and a tag in either order. -/
def properties : Reading Properties := do
  let before ← anchorMark
  let tag ← tagMark
  let anchor ← if before.isNone && tag.isSome then anchorMark else pure before
  return ⟨anchor, ← tag.mapM tagName⟩

/-- `scalarNode properties text plain` adds a scalar. -/
def scalarNode (properties : Properties) (text : String) (plain : Bool) : Reading NodeId := do
  let id ← add (.scalar (properties.scalarTag text plain) text)
  declare properties.anchor id
  return id

/-- `sequenceNode properties items` adds a sequence whose items are read by `items`. -/
def sequenceNode (properties : Properties) (items : Reading (List NodeId)) : Reading NodeId := do
  let tag := properties.tagOr .seq
  let id ← add (.sequence tag [])
  declare properties.anchor id
  replace id (.sequence tag (← nested items))
  return id

/-- `mappingNode properties pairs` adds a mapping whose pairs are read by `pairs`. -/
def mappingNode (properties : Properties) (pairs : Reading (List NodePair)) : Reading NodeId := do
  let tag := properties.tagOr .map
  let id ← add (.mapping tag [])
  declare properties.anchor id
  replace id (.mapping tag (← nested pairs))
  return id

/-- Where a node stands: in a flow collection, in a block, or in a block mapping, where a sequence
need not be indented. -/
inductive Place where
  | flow
  | block
  | blockMapping
  deriving DecidableEq, Repr, Inhabited

/-- The tokens before which an item of an indented sequence is left out. -/
def itemEnds : List Token :=
  [.blockEntry, .blockEnd]

/-- The tokens before which an item of a sequence in a mapping is left out. -/
def flushItemEnds : List Token :=
  [.blockEntry, .key, .value, .blockEnd]

/-- The tokens before which a key or a value of a block mapping is left out. -/
def pairEnds : List Token :=
  [.key, .value, .blockEnd]

mutual

/-- `readNode fuel place` reads a node. -/
def readNode : Nat → Place → Reading NodeId
  | 0, _ => malformed
  | fuel + 1, place => do
      match ← peek with
      | .alias name =>
          skip
          anchored name
      | _ =>
          let properties ← properties
          let token ← peek
          match token, place with
          | .blockEntry, .blockMapping => sequenceNode properties (readFlushItems fuel)
          | .scalar text plain, _ =>
              skip
              scalarNode properties text plain
          | .flowSequenceStart, _ =>
              skip
              sequenceNode properties (readFlowItems fuel true)
          | .flowMappingStart, _ =>
              skip
              mappingNode properties (readFlowPairs fuel true)
          | _, _ =>
              if token == .blockSequenceStart && place ≠ .flow then
                skip
                sequenceNode properties (readItems fuel)
              else if token == .blockMappingStart && place ≠ .flow then
                skip
                mappingNode properties (readPairs fuel)
              else if properties.isEmpty then malformed
              else scalarNode properties "" properties.tag.isNone

/-- `readItems fuel` reads the items of an indented sequence and its end. -/
def readItems : Nat → Reading (List NodeId)
  | 0 => malformed
  | fuel + 1 => do
      match ← peek with
      | .blockEntry =>
          skip
          let item ← unlessBefore itemEnds (readNode fuel .block)
          return item :: (← readItems fuel)
      | .blockEnd =>
          skip
          return []
      | _ => malformed

/-- `readFlushItems fuel` reads the items of a sequence that is not indented. -/
def readFlushItems : Nat → Reading (List NodeId)
  | 0 => malformed
  | fuel + 1 => do
      match ← peek with
      | .blockEntry =>
          skip
          let item ← unlessBefore flushItemEnds (readNode fuel .block)
          return item :: (← readFlushItems fuel)
      | _ => return []

/-- `readPairs fuel` reads the pairs of a block mapping and its end. -/
def readPairs : Nat → Reading (List NodePair)
  | 0 => malformed
  | fuel + 1 => do
      match ← peek with
      | .key =>
          skip
          let key ← unlessBefore pairEnds (readNode fuel .blockMapping)
          let value ← readValueAfter fuel .blockMapping pairEnds
          return (key, value) :: (← readPairs fuel)
      | .blockEnd =>
          skip
          return []
      | _ => malformed

/-- `readValueAfter fuel place ends` reads the value of a pair, if there is one. -/
def readValueAfter : Nat → Place → List Token → Reading NodeId
  | 0, _, _ => malformed
  | fuel + 1, place, ends => do
      if (← peek) == .value then
        skip
        unlessBefore ends (readNode fuel place)
      else add .empty

/-- `readFlowItems fuel first` reads the items of a flow sequence and its end. An item may be a
single pair. -/
def readFlowItems : Nat → Bool → Reading (List NodeId)
  | 0, _ => malformed
  | fuel + 1, first => do
      if (← peek) == .flowSequenceEnd then
        skip
        return []
      unless first do expect .flowEntry
      match ← peek with
      | .flowSequenceEnd =>
          skip
          return []
      | .key =>
          let pair ← nested (readFlowPair fuel .flowSequenceEnd)
          let item ← add (.mapping .map [pair])
          return item :: (← readFlowItems fuel false)
      | _ =>
          let item ← readNode fuel .flow
          return item :: (← readFlowItems fuel false)

/-- `readFlowPairs fuel first` reads the pairs of a flow mapping and its end. A key may stand
without a value. -/
def readFlowPairs : Nat → Bool → Reading (List NodePair)
  | 0, _ => malformed
  | fuel + 1, first => do
      if (← peek) == .flowMappingEnd then
        skip
        return []
      unless first do expect .flowEntry
      match ← peek with
      | .flowMappingEnd =>
          skip
          return []
      | .key =>
          let pair ← readFlowPair fuel .flowMappingEnd
          return pair :: (← readFlowPairs fuel false)
      | _ =>
          let key ← readNode fuel .flow
          let value ← add .empty
          return (key, value) :: (← readFlowPairs fuel false)

/-- `readFlowPair fuel last` reads a pair of a flow collection that ends with the token `last`. -/
def readFlowPair : Nat → Token → Reading NodePair
  | 0, _ => malformed
  | fuel + 1, last => do
      skip
      let key ← unlessBefore [.value, .flowEntry, last] (readNode fuel .flow)
      let value ← readValueAfter fuel .flow [.flowEntry, last]
      return (key, value)

end

/-- The handles that every document knows. -/
def defaultHandles : List (String × String) :=
  [("!", "!"), ("!!", Tag.standardStart)]

/-- `readDirectives fuel versioned handles` reads directives and gives the handles that they declare
and `handles`. `versioned` holds after a directive with the version. -/
def readDirectives :
    Nat → Bool → List (String × String) → Reading (List (String × String))
  | 0, _, _ => malformed
  | fuel + 1, versioned, handles => do
      match ← peek with
      | .directive directive =>
          skip
          match directive with
          | .version major =>
              if versioned || major ≠ 1 then malformed else readDirectives fuel true handles
          | .tag handle start =>
              if (handles.lookup handle).isSome then malformed
              else readDirectives fuel versioned ((handle, start) :: handles)
          | .unknown => readDirectives fuel versioned handles
      | _ => return handles

/-- `startsDocument token` holds for the tokens that begin a document with a marker. -/
def startsDocument : Token → Bool
  | .directive _ => true
  | .documentStart => true
  | _ => false

/-- `readContent fuel` reads the content of a document behind its marker, which may be left out. -/
def readContent (fuel : Nat) : Reading NodeId := do
  let token ← peek
  if startsDocument token || token == .documentEnd || token == .streamEnd then add .empty
  else readNode fuel .block

/-- `skipEnds fuel` goes past the markers at the end of a document. -/
def skipEnds : Nat → Reading Unit
  | 0 => malformed
  | fuel + 1 => do
      if (← peek) == .documentEnd then
        skip
        skipEnds fuel

/-- `readDocument fuel` reads the only document of a text, if there is one. -/
def readDocument (fuel : Nat) : Reading (Option NodeId) := do
  let token ← peek
  if token == .streamEnd then return none
  let root ←
    if startsDocument token then
      let handles ← readDirectives fuel false []
      modify fun source ↦ { source with handles := handles ++ defaultHandles }
      expect .documentStart
      readContent fuel
    else
      modify fun source ↦ { source with handles := defaultHandles }
      readNode fuel .block
  skipEnds fuel
  expect .streamEnd
  return some root

/-- A document: its nodes, and the node that holds the others. -/
structure Document where
  graph : Graph
  root : NodeId
  deriving Repr, Inhabited

namespace Document

/-- `ofText text` is the document of a text. Reading a token takes no more than four calls. -/
def ofText (text : String) : Except Failure (Option Document) := do
  let lexed := Lexed.ofText text
  let (root?, source) ← (readDocument (4 * lexed.tokens.length + 4)).run
    { tokens := lexed.tokens, failure := lexed.failure.getD .malformed }
  return root?.map (Document.mk source.graph)

end Document

end AssistedDialing.Yaml
