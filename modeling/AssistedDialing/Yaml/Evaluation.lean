import AssistedDialing.Yaml.Document
import AssistedDialing.Yaml.KeySet

/-!
# The value of a document

`Content.ofText` is the value of a YAML text: that of its document, or null if there is none. The
values of scalars are read where they are first met, and the parts of a collection after all
collections that were met before it. So of several parts that have no value the one that is nested
least decides what the failure is, and of equally deep ones the first.
-/

namespace AssistedDialing.Yaml

/-- `isCollectionTag tag` holds for the tags of collections. -/
def isCollectionTag (tag : Tag) : Bool :=
  [Tag.seq, .map, .set, .omap, .pairs].contains tag

namespace Graph

/-- `graph.textWithin depth id` is the text of a scalar, or that of the value under the key `=` of a
mapping, where such mappings are nested at most `depth` deep. -/
def textWithin (graph : Graph) : Nat → NodeId → Option String
  | 0, _ => none
  | depth + 1, id =>
      match graph.node id with
      | .scalar _ text => some text
      | .sequence _ _ => none
      | .mapping _ pairs =>
          match pairs.find? fun (key, _) ↦ graph.tag key = .value with
          | some (_, value) => graph.textWithin depth value
          | none => none

/-- `graph.scalarContent id` is the value of a node whose tag is that of a scalar. The text of a
mapping is no timestamp. -/
def scalarContent (graph : Graph) (id : NodeId) : Except Failure Content :=
  match graph.textWithin (graph.nodes.size + 1) id with
  | none => .error .malformed
  | some text =>
      if graph.tag id = .timestamp && isMapping (graph.node id) then .error .timestampOfMapping
      else Yaml.scalarContent (graph.tag id) text

end Graph

/-- How far the values of the nodes are read: the nodes, the values that are known, and the
collections that were met since, the latest first. A collection that was met has an empty value. -/
structure Progress where
  graph : Graph
  values : Array (Option Content)
  met : List NodeId := []
  deriving Repr, Inhabited

/-- The reading of values. -/
abbrev Evaluation := StateT Progress (Except Failure)

namespace Evaluation

/-- `learn id content` takes down the value of a node. -/
def learn (id : NodeId) (content : Content) : Evaluation Unit :=
  modify fun progress ↦
    { progress with values := progress.values.setIfInBounds id (some content) }

/-- `meet id` reads a scalar, or notes a collection, unless the node was met before. -/
def meet (id : NodeId) : Evaluation Unit := do
  let progress ← get
  if (progress.values.getD id none).isNone then
    if isCollectionTag (progress.graph.tag id) then
      learn id (.list [])
      modify fun progress ↦ { progress with met := id :: progress.met }
    else learn id (← progress.graph.scalarContent id)

/-- `meetPair pair` meets the key and the value of a mapping. A collection cannot be a key. -/
def meetPair (pair : NodePair) : Evaluation Unit := do
  meet pair.1
  if isCollectionTag ((← get).graph.tag pair.1) then throw .malformed
  meet pair.2

/-- `meetEntry id` meets the key and the value of a mapping with one pair. -/
def meetEntry (id : NodeId) : Evaluation Unit := do
  match (← get).graph.node id with
  | .mapping _ [(key, value)] =>
      meet key
      meet value
  | _ => throw .malformed

/-- `flatten id` flattens a mapping and gives its pairs. -/
def flatten (id : NodeId) : Evaluation (List NodePair) := do
  match (← get).graph.flatten id with
  | none => throw .malformed
  | some graph =>
      modify fun progress ↦ { progress with graph }
      return graph.pairs id

/-- `meetParts id` meets the parts of a collection. -/
def meetParts (id : NodeId) : Evaluation Unit := do
  let node := (← get).graph.node id
  match node.tag, node with
  | .seq, .sequence _ items => items.forM meet
  | .map, .mapping _ _ => (← flatten id).forM meetPair
  | .set, .mapping _ _ => (← flatten id).forM meetPair
  | .omap, .sequence _ items => items.forM meetEntry
  | .pairs, .sequence _ items => items.forM meetEntry
  | _, _ => throw .malformed

/-- `meetAll rounds` meets the parts of the collections that were met, in order, then those of the
collections among them, and so on in so many rounds. -/
def meetAll : Nat → Evaluation Unit
  | 0 => return
  | rounds + 1 => do
      let met := (← get).met
      if !met.isEmpty then
        modify fun progress ↦ { progress with met := [] }
        met.reverse.forM meetParts
        meetAll rounds

end Evaluation

namespace Progress

/-- `progress.entries content pairs` is the values of keys and values. -/
def entries (content : NodeId → Content) (pairs : List NodePair) : List (Content × Content) :=
  pairs.map fun (key, value) ↦ (content key, content value)

/-- `progress.content depth id` is the value of a node, in which a collection that is nested deeper
than `depth` is shown as an empty list. -/
def content (progress : Progress) : Nat → NodeId → Content
  | 0, id => (progress.values.getD id none).getD .null
  | depth + 1, id =>
      let inner := progress.content depth
      match progress.graph.tag id, progress.graph.node id with
      | .seq, .sequence _ items => .list (items.map inner)
      | .map, .mapping _ pairs => .mapping (entries inner pairs)
      | .set, .mapping _ pairs => .set (KeySet.ofKeys (pairs.map fun pair ↦ inner pair.1))
      | .omap, .sequence _ items | .pairs, .sequence _ items =>
          .pairs (entries inner (items.flatMap progress.graph.pairs))
      | _, _ => (progress.values.getD id none).getD .null

end Progress

namespace Document

/-- `document.evaluate` reads the values of all nodes that are a part of the document's root. In
every round but the last a node is met for the first time. -/
def evaluate (document : Document) : Except Failure Progress := do
  let size := document.graph.nodes.size
  let evaluation : Evaluation Unit := do
    Evaluation.meet document.root
    Evaluation.meetAll (size + 1)
  let (_, progress) ← evaluation.run
    { graph := document.graph, values := Array.replicate size none }
  return progress

end Document

namespace Content

/-- How deep a value is shown. A collection in a collection in a mapping is of no use for settings.
-/
def shownDepth : Nat := 2

/-- `ofText text` is the value of a text. -/
def ofText (text : String) : Except Failure Content := do
  match ← Document.ofText text with
  | none => return .null
  | some document => return (← document.evaluate).content shownDepth document.root

end Content

end AssistedDialing.Yaml
