import AssistedDialing.Yaml.Tag

/-!
# Nodes

A YAML document is a graph of nodes: scalars, sequences and mappings, each with a tag. The parts of
a collection are given by their numbers, for an anchor and its aliases are one node, which may even
be a part of itself. `Graph.flatten` carries out the merging of mappings.
-/

namespace AssistedDialing.Yaml

/-- The number of a node. -/
abbrev NodeId := Nat

/-- A key and a value of a mapping. -/
abbrev NodePair := NodeId × NodeId

/-- A node of a document. -/
inductive Node where
  | scalar (tag : Tag) (text : String)
  | sequence (tag : Tag) (items : List NodeId)
  | mapping (tag : Tag) (pairs : List NodePair)
  deriving DecidableEq, Repr, Inhabited

namespace Node

/-- The node that stands where a value is left out. -/
def empty : Node :=
  .scalar .null ""

/-- `node.tag` is the tag of a node. -/
def tag : Node → Tag
  | scalar tag _ => tag
  | sequence tag _ => tag
  | mapping tag _ => tag

/-- `node.pairs` is the keys and values of a mapping. -/
def pairs : Node → List NodePair
  | mapping _ pairs => pairs
  | _ => []

/-- `node.withTag tag` is the node with another tag. -/
def withTag (tag : Tag) : Node → Node
  | scalar _ text => scalar tag text
  | sequence _ items => sequence tag items
  | mapping _ pairs => mapping tag pairs

end Node

/-- The nodes of a document by their numbers. -/
structure Graph where
  nodes : Array Node := #[]
  deriving Repr, Inhabited

namespace Graph

/-- `graph.node id` is a node. -/
def node (graph : Graph) (id : NodeId) : Node :=
  graph.nodes.getD id .empty

/-- `graph.set id node` replaces a node. -/
def set (graph : Graph) (id : NodeId) (node : Node) : Graph :=
  ⟨graph.nodes.setIfInBounds id node⟩

/-- `graph.tag id` is the tag of a node. -/
def tag (graph : Graph) (id : NodeId) : Tag :=
  (graph.node id).tag

/-- `graph.pairs id` is the keys and values of a mapping. -/
def pairs (graph : Graph) (id : NodeId) : List NodePair :=
  (graph.node id).pairs

/-- `graph.setPairs id pairs` gives a mapping other keys and values. -/
def setPairs (graph : Graph) (id : NodeId) (pairs : List NodePair) : Graph :=
  graph.set id (.mapping (graph.tag id) pairs)

/-- `graph.pairCount` is the number of all keys. -/
def pairCount (graph : Graph) : Nat :=
  graph.nodes.foldl (fun count node ↦ count + node.pairs.length) 0

/-- `isMapping node` holds for mappings. -/
def isMapping : Node → Bool
  | .mapping _ _ => true
  | _ => false

/-- `sourcesIn flatten items graph` flattens mappings and gives their pairs, those of the last
mapping first, unless one of the items is no mapping. -/
def sourcesIn (flatten : NodeId → Graph → Option Graph) :
    List NodeId → Graph → Option (List NodePair × Graph)
  | [], graph => some ([], graph)
  | item :: items, graph =>
      if isMapping (graph.node item) then do
        let graph ← flatten item graph
        let (others, flattened) ← sourcesIn flatten items graph
        return (others ++ graph.pairs item, flattened)
      else none

/-- `sourcePairs flatten source graph` is the pairs that a merge key takes from its value, a mapping
or a sequence of mappings. -/
def sourcePairs (flatten : NodeId → Graph → Option Graph) (source : NodeId) (graph : Graph) :
    Option (List NodePair × Graph) :=
  match graph.node source with
  | .scalar _ _ => none
  | .mapping _ _ => sourcesIn flatten [source] graph
  | .sequence _ items => sourcesIn flatten items graph

/-- `flattenPairs flatten id merged kept pairs graph` flattens the mapping `id`, of whose pairs
`pairs` are left. Those before were merged into `merged` or are among the mapping's own pairs
`kept`. The special key `=` becomes a text wherever it stands. -/
def flattenPairs (flatten : NodeId → Graph → Option Graph) (id : NodeId)
    (merged kept : List NodePair) : List NodePair → Graph → Option Graph
  | [], graph => some (graph.setPairs id (merged ++ kept))
  | (key, value) :: pairs, graph =>
      match graph.tag key with
      | .merge => do
          let (sources, graph) ← sourcePairs flatten value (graph.setPairs id (kept ++ pairs))
          flattenPairs flatten id (merged ++ sources) kept pairs graph
      | .value =>
          flattenPairs flatten id merged (kept ++ [(key, value)]) pairs
            (graph.set key ((graph.node key).withTag .str))
      | _ => flattenPairs flatten id merged (kept ++ [(key, value)]) pairs graph

/-- `flattenWithin depth id graph` flattens a mapping, with merge keys nested at most `depth` deep.
-/
def flattenWithin : Nat → NodeId → Graph → Option Graph
  | 0, _, _ => none
  | depth + 1, id, graph => flattenPairs (flattenWithin depth) id [] [] (graph.pairs id) graph

/-- `graph.flatten id` puts the pairs that a mapping merges in before its own, unless it merges
something else than mappings. A mapping that merges itself in no longer has the key that says so, so
that merge keys are not nested deeper than there are keys. -/
def flatten (graph : Graph) (id : NodeId) : Option Graph :=
  flattenWithin (graph.pairCount + 1) id graph

end Graph

end AssistedDialing.Yaml
