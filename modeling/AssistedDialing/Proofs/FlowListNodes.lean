import AssistedDialing.Proofs.FlowListTokens
import AssistedDialing.Yaml.Document

/-!
# Nodes of a list in a mapping

The tokens of `flowListChars` are read as a mapping node, its key, a sequence node and the items of
the sequence, which get their numbers in this order: `ofText_flowListChars` gives the document. Each
reader has a lemma that says which tokens it takes and which nodes it adds.
-/

namespace AssistedDialing.Yaml

/-! ## Reading nodes -/

section Steps

variable {σ ε α β : Type}

/-- A computation with a state goes on where its first step ends. -/
theorem run_bind_ok {first : StateT σ (Except ε) α} {next : α → StateT σ (Except ε) β} {s t : σ}
    {value : α} (h : first.run s = .ok (value, t)) :
    (first >>= next).run s = (next value).run t := by
  rw [StateT.run_bind, h]
  rfl

theorem run_bind_error {first : StateT σ (Except ε) α} {next : α → StateT σ (Except ε) β} {s : σ}
    {error : ε} (h : first.run s = .error error) : (first >>= next).run s = .error error := by
  rw [StateT.run_bind, h]
  rfl

end Steps

namespace Document

/-- `sourceAt tokens nesting nodes` is left to read in a document without directives and anchors. -/
def sourceAt (tokens : List Token) (nesting : Nat) (nodes : List Node) : Source where
  tokens := tokens
  nesting := nesting
  handles := defaultHandles
  graph := ⟨nodes.toArray⟩

variable {tokens rest : List Token} {nesting fuel : Nat} {nodes more : List Node}

theorem peek_run (token : Token) :
    Reading.peek.run (sourceAt (token :: rest) nesting nodes) =
      .ok (token, sourceAt (token :: rest) nesting nodes) :=
  rfl

theorem skip_run (token : Token) :
    Reading.skip.run (sourceAt (token :: rest) nesting nodes) =
      .ok ((), sourceAt rest nesting nodes) :=
  rfl

theorem add_run (node : Node) :
    (Reading.add node).run (sourceAt tokens nesting nodes) =
      .ok (nodes.length, sourceAt tokens nesting (nodes ++ [node])) := by
  simp only [sourceAt, ← List.push_toArray]
  rfl

theorem declare_run (id : NodeId) :
    (Reading.declare none id).run (sourceAt tokens nesting nodes) =
      .ok ((), sourceAt tokens nesting nodes) :=
  rfl

theorem replace_run (node other : Node) :
    (Reading.replace nodes.length other).run (sourceAt tokens nesting (nodes ++ node :: more)) =
      .ok ((), sourceAt tokens nesting (nodes ++ other :: more)) := by
  have hset : (nodes ++ node :: more).set nodes.length other = nodes ++ other :: more := by
    rw [List.set_append_right _ _ (Nat.le_refl _), Nat.sub_self, List.set_cons_zero]
  rw [sourceAt, sourceAt, ← hset, ← List.setIfInBounds_toArray]
  rfl

/-- What is read in a collection is nested one deeper. -/
theorem nested_run {α : Type} {read : Reading α} {found : α} {after : List Node}
    (hnesting : nesting < maxNesting)
    (h : read.run (sourceAt tokens (nesting + 1) nodes) =
      .ok (found, sourceAt rest (nesting + 1) after)) :
    (Reading.nested read).run (sourceAt tokens nesting nodes) =
      .ok (found, sourceAt rest nesting after) := by
  have hguard : ¬ maxNesting ≤ (sourceAt tokens nesting nodes).nesting := Nat.not_le.mpr hnesting
  have hget : (get : Reading Source).run (sourceAt tokens nesting nodes) =
      .ok (sourceAt tokens nesting nodes, sourceAt tokens nesting nodes) := rfl
  have hset : (set (sourceAt tokens (nesting + 1) nodes) : Reading PUnit).run
      (sourceAt tokens nesting nodes) = .ok ((), sourceAt tokens (nesting + 1) nodes) := rfl
  rw [Reading.nested, run_bind_ok hget, if_neg hguard]
  show StateT.run (set (sourceAt tokens (nesting + 1) nodes) >>= _) _ = _
  rw [run_bind_ok hset, run_bind_ok h]
  rfl

/-- `isMark token` holds for the tokens of anchors, of aliases and of tags. -/
def isMark : Token → Bool
  | .alias _ | .anchor _ | .tag _ => true
  | _ => false

/-- A node without marks before it has no properties. -/
theorem properties_run {token : Token} (h : isMark token = false) :
    properties.run (sourceAt (token :: rest) nesting nodes) =
      .ok ({}, sourceAt (token :: rest) nesting nodes) := by
  cases token <;> first | rfl | cases h

/-! ## The items of the list -/

/-- The node of a word. -/
def wordNode (cs : List Char) : Node :=
  .scalar (.ofPlain (String.ofList cs)) (String.ofList cs)

theorem readNode_scalar (place : Place) (cs : List Char) :
    (readNode (fuel + 1) place).run
        (sourceAt (.scalar (String.ofList cs) true :: rest) nesting nodes) =
      .ok (nodes.length, sourceAt rest nesting (nodes ++ [wordNode cs])) := by
  have hscalar : (scalarNode {} (String.ofList cs) true).run (sourceAt rest nesting nodes) =
      .ok (nodes.length, sourceAt rest nesting (nodes ++ [wordNode cs])) := by
    rw [scalarNode, run_bind_ok (add_run _), run_bind_ok (declare_run _)]
    rfl
  rw [readNode, run_bind_ok (peek_run _)]
  show (properties >>= _).run _ = _
  rw [run_bind_ok (properties_run rfl), run_bind_ok (peek_run _)]
  cases place <;> exact hscalar

/-- `behindComma first` is what stands before an item of a list. -/
def behindComma (first : Bool) : List Token :=
  if first then [] else [.flowEntry]

/-- Before a word an item is read. -/
theorem readFlowItems_word (first : Bool) (cs : List Char) :
    (readFlowItems (fuel + 1) first).run
        (sourceAt (behindComma first ++ .scalar (String.ofList cs) true :: rest) nesting nodes) =
      (do
        let item ← readNode fuel .flow
        return item :: (← readFlowItems fuel false) : Reading (List NodeId)).run
          (sourceAt (.scalar (String.ofList cs) true :: rest) nesting nodes) := by
  rw [readFlowItems]
  cases first <;> rfl

/-- `itemsBehind words` is the tokens behind the first item of a list. -/
def itemsBehind (words : List (List Char)) : List Token :=
  words.flatMap (fun cs ↦ [.flowEntry, .scalar (String.ofList cs) true]) ++ [.flowSequenceEnd]

/-- The items of a list become nodes, one after the other. -/
theorem readFlowItems_run {first : Bool} {cs : List Char} {words : List (List Char)}
    (hfuel : words.length + 3 ≤ fuel) :
    (readFlowItems fuel first).run
        (sourceAt (behindComma first ++ .scalar (String.ofList cs) true ::
          (itemsBehind words ++ rest)) nesting nodes) =
      .ok (List.range' nodes.length (words.length + 1),
        sourceAt rest nesting (nodes ++ (cs :: words).map wordNode)) := by
  induction words generalizing first cs fuel nodes with
  | nil =>
      obtain ⟨fuel, rfl⟩ : ∃ less, fuel = less + 1 + 1 := ⟨fuel - 2, by omega⟩
      have hend : (readFlowItems (fuel + 1) false).run
          (sourceAt (itemsBehind [] ++ rest) nesting (nodes ++ [wordNode cs])) =
            .ok ([], sourceAt rest nesting (nodes ++ [wordNode cs])) := by
        rw [readFlowItems]
        rfl
      rw [readFlowItems_word, run_bind_ok (readNode_scalar _ _), run_bind_ok hend]
      rfl
  | cons ds words ih =>
      rw [List.length_cons] at hfuel
      obtain ⟨fuel, rfl⟩ : ∃ less, fuel = less + 1 + 1 := ⟨fuel - 2, by omega⟩
      have hitems : (readFlowItems (fuel + 1) false).run
          (sourceAt (itemsBehind (ds :: words) ++ rest) nesting (nodes ++ [wordNode cs])) =
            .ok (List.range' (nodes ++ [wordNode cs]).length (words.length + 1),
              sourceAt rest nesting (nodes ++ [wordNode cs] ++ (ds :: words).map wordNode)) :=
        ih (by omega)
      rw [readFlowItems_word, run_bind_ok (readNode_scalar _ _), run_bind_ok hitems,
        List.length_append, List.append_assoc]
      rfl

/-- A sequence gets its number before its items do. -/
theorem sequenceNode_run {items : Reading (List NodeId)} {found : List NodeId}
    (hnesting : nesting < maxNesting)
    (h : items.run (sourceAt tokens (nesting + 1) (nodes ++ [.sequence .seq []])) =
      .ok (found, sourceAt rest (nesting + 1) (nodes ++ .sequence .seq [] :: more))) :
    (sequenceNode {} items).run (sourceAt tokens nesting nodes) =
      .ok (nodes.length, sourceAt rest nesting (nodes ++ .sequence .seq found :: more)) := by
  have hsteps : sequenceNode {} items = (do
      let id ← Reading.add (.sequence .seq [])
      Reading.declare none id
      Reading.replace id (.sequence .seq (← Reading.nested items))
      return id) := rfl
  rw [hsteps, run_bind_ok (add_run _), run_bind_ok (declare_run _),
    run_bind_ok (nested_run hnesting h), run_bind_ok (replace_run _ _)]
  rfl

/-- A mapping gets its number before its keys and values do. -/
theorem mappingNode_run {pairs : Reading (List NodePair)} {found : List NodePair}
    (hnesting : nesting < maxNesting)
    (h : pairs.run (sourceAt tokens (nesting + 1) (nodes ++ [.mapping .map []])) =
      .ok (found, sourceAt rest (nesting + 1) (nodes ++ .mapping .map [] :: more))) :
    (mappingNode {} pairs).run (sourceAt tokens nesting nodes) =
      .ok (nodes.length, sourceAt rest nesting (nodes ++ .mapping .map found :: more)) := by
  have hsteps : mappingNode {} pairs = (do
      let id ← Reading.add (.mapping .map [])
      Reading.declare none id
      Reading.replace id (.mapping .map (← Reading.nested pairs))
      return id) := rfl
  rw [hsteps, run_bind_ok (add_run _), run_bind_ok (declare_run _),
    run_bind_ok (nested_run hnesting h), run_bind_ok (replace_run _ _)]
  rfl

/-! ## The document -/

/-- `flowListNodes name words` is the nodes of a mapping whose only value is a list. -/
def flowListNodes (name : List Char) (words : List (List Char)) : List Node :=
  .mapping .map [(1, 2)] :: wordNode name :: .sequence .seq (List.range' 3 words.length) ::
    words.map wordNode

/-- A list in brackets becomes a sequence. -/
theorem readNode_list {place : Place} {cs : List Char} {words : List (List Char)}
    (hnesting : nesting < maxNesting) (hfuel : words.length + 3 ≤ fuel) :
    (readNode (fuel + 1) place).run
        (sourceAt (.flowSequenceStart :: .scalar (String.ofList cs) true ::
          (itemsBehind words ++ rest)) nesting nodes) =
      .ok (nodes.length, sourceAt rest nesting
        (nodes ++ .sequence .seq (List.range' (nodes.length + 1) (words.length + 1)) ::
          (cs :: words).map wordNode)) := by
  have hitems : (readFlowItems fuel true).run
      (sourceAt (.scalar (String.ofList cs) true :: (itemsBehind words ++ rest)) (nesting + 1)
        (nodes ++ [.sequence .seq []])) =
      .ok (List.range' (nodes.length + 1) (words.length + 1), sourceAt rest (nesting + 1)
        (nodes ++ .sequence .seq [] :: (cs :: words).map wordNode)) := by
    have hread : (readFlowItems fuel true).run
        (sourceAt (behindComma true ++ .scalar (String.ofList cs) true ::
          (itemsBehind words ++ rest)) (nesting + 1) (nodes ++ [.sequence .seq []])) = _ :=
      readFlowItems_run hfuel
    rwa [List.length_append, List.append_assoc] at hread
  rw [readNode, run_bind_ok (peek_run _)]
  show StateT.run (properties >>= _) _ = _
  rw [run_bind_ok (properties_run rfl), run_bind_ok (peek_run _)]
  have hsequence := sequenceNode_run hnesting hitems
  cases place <;> exact hsequence

theorem unlessBefore_run {ends : List Token} {token : Token} {read : Reading NodeId}
    (h : ends.contains token = false) :
    (Reading.unlessBefore ends read).run (sourceAt (token :: rest) nesting nodes) =
      read.run (sourceAt (token :: rest) nesting nodes) := by
  rw [Reading.unlessBefore, run_bind_ok (peek_run _), h]
  rfl

theorem readValueAfter_run {place : Place} {ends : List Token} {token : Token}
    (h : ends.contains token = false) :
    (readValueAfter (fuel + 1) place ends).run
        (sourceAt (.value :: token :: rest) nesting nodes) =
      (readNode fuel place).run (sourceAt (token :: rest) nesting nodes) := by
  rw [readValueAfter, run_bind_ok (peek_run _)]
  show StateT.run (Reading.skip >>= _) _ = _
  rw [run_bind_ok (skip_run _), unlessBefore_run h]

/-- The only pair of a mapping, whose key is a word and whose value is a list. -/
theorem readPairs_run {name cs : List Char} {words : List (List Char)}
    (hnesting : nesting < maxNesting) (hfuel : words.length + 6 ≤ fuel) :
    (readPairs fuel).run
        (sourceAt (.key :: .scalar (String.ofList name) true :: .value :: .flowSequenceStart ::
          .scalar (String.ofList cs) true :: (itemsBehind words ++ .blockEnd :: rest))
          nesting nodes) =
      .ok ([(nodes.length, nodes.length + 1)], sourceAt rest nesting
        (nodes ++ wordNode name ::
          .sequence .seq (List.range' (nodes.length + 2) (words.length + 1)) ::
            (cs :: words).map wordNode)) := by
  obtain ⟨fuel, rfl⟩ : ∃ less, fuel = less + 1 + 1 + 1 := ⟨fuel - 3, by omega⟩
  have hkey (tokens : List Token) : (Reading.unlessBefore pairEnds
      (readNode (fuel + 1 + 1) .blockMapping)).run
        (sourceAt (.scalar (String.ofList name) true :: tokens) nesting nodes) =
      .ok (nodes.length, sourceAt tokens nesting (nodes ++ [wordNode name])) := by
    rw [unlessBefore_run rfl, readNode_scalar]
  have hvalue : (readValueAfter (fuel + 1 + 1) .blockMapping pairEnds).run
      (sourceAt (.value :: .flowSequenceStart :: .scalar (String.ofList cs) true ::
        (itemsBehind words ++ .blockEnd :: rest)) nesting (nodes ++ [wordNode name])) =
      .ok (nodes.length + 1, sourceAt (.blockEnd :: rest) nesting
        (nodes ++ wordNode name ::
          .sequence .seq (List.range' (nodes.length + 2) (words.length + 1)) ::
            (cs :: words).map wordNode)) := by
    rw [readValueAfter_run rfl, readNode_list hnesting (by omega), List.length_append,
      List.append_assoc]
    rfl
  have hend (nodes : List Node) : (readPairs (fuel + 1 + 1)).run
      (sourceAt (.blockEnd :: rest) nesting nodes) = .ok ([], sourceAt rest nesting nodes) := by
    rw [readPairs]
    rfl
  rw [readPairs, run_bind_ok (peek_run _)]
  show StateT.run (Reading.skip >>= _) _ = _
  rw [run_bind_ok (skip_run _), run_bind_ok (hkey _), run_bind_ok hvalue, run_bind_ok (hend _)]
  rfl

/-- A mapping whose only value is a list. -/
theorem readNode_mapping {name cs : List Char} {words : List (List Char)}
    (hfuel : words.length + 7 ≤ fuel) :
    (readNode fuel .block).run
        (sourceAt (.blockMappingStart :: .key :: .scalar (String.ofList name) true :: .value ::
          .flowSequenceStart :: .scalar (String.ofList cs) true ::
            (itemsBehind words ++ .blockEnd :: rest)) 0 []) =
      .ok (0, sourceAt rest 0 (flowListNodes name (cs :: words))) := by
  obtain ⟨fuel, rfl⟩ : ∃ less, fuel = less + 1 := ⟨fuel - 1, by omega⟩
  rw [readNode, run_bind_ok (peek_run _)]
  show StateT.run (properties >>= _) _ = _
  rw [run_bind_ok (properties_run rfl), run_bind_ok (peek_run _)]
  have houter : 0 < maxNesting := by decide
  have hinner : 0 + 1 < maxNesting := by decide
  exact mappingNode_run houter (readPairs_run hinner (by omega))

/-- A document without a marker consists of a node. -/
theorem readDocument_run {token : Token} (hstart : startsDocument token = false)
    (hend : (token == .streamEnd) = false)
    (h : (readNode (fuel + 1) .block).run (sourceAt (token :: rest) 0 []) =
      .ok (0, sourceAt [.streamEnd] 0 nodes)) :
    (readDocument (fuel + 1)).run { tokens := token :: rest } =
      .ok (some 0, sourceAt [] 0 nodes) := by
  have hpeek : Reading.peek.run { tokens := token :: rest } =
      .ok (token, { tokens := token :: rest }) := rfl
  have hends : (skipEnds (fuel + 1)).run (sourceAt [.streamEnd] 0 nodes) =
      .ok ((), sourceAt [.streamEnd] 0 nodes) := rfl
  rw [readDocument, run_bind_ok hpeek, hend, hstart]
  show StateT.run (do
    let root ← readNode (fuel + 1) .block
    skipEnds (fuel + 1)
    Reading.expect .streamEnd
    return some root) (sourceAt (token :: rest) 0 []) = _
  rw [run_bind_ok h, run_bind_ok hends]
  rfl

/-- The document of a list in a mapping. -/
theorem ofText_flowListChars {name first : List Char} {words : List (List Char)}
    (hname : IsWord name) (hlength : name.length ≤ 1024) (hfirst : IsWord first) (hwords : ∀ cs ∈ words, IsWord cs) :
    Document.ofText (String.ofList (Lexed.flowListChars name first words)) =
      .ok (some ⟨⟨(flowListNodes name (first :: words)).toArray⟩, 0⟩) := by
  have htokens : Lexed.flowListTokens name first words =
      .blockMappingStart :: .key :: .scalar (String.ofList name) true :: .value ::
        .flowSequenceStart :: .scalar (String.ofList first) true ::
          (itemsBehind words ++ [.blockEnd, .streamEnd]) := by
    simp [Lexed.flowListTokens, Lexed.itemTokens, itemsBehind]
  have hcount : words.length + 6 ≤ (Lexed.flowListTokens name first words).length := by
    have hitems : words.length ≤ (itemsBehind words).length := by
      simp only [itemsBehind, List.length_append, List.length_flatMap, List.length_cons,
        List.length_nil, List.map_const', List.sum_replicate_nat]
      omega
    rw [htokens]
    simp only [List.length_cons, List.length_append, List.length_nil]
    omega
  have hroot : (readDocument (4 * (Lexed.flowListTokens name first words).length + 4)).run
      { tokens := Lexed.flowListTokens name first words } =
        .ok (some 0, sourceAt [] 0 (flowListNodes name (first :: words))) := by
    rw [htokens] at hcount ⊢
    exact readDocument_run rfl rfl (readNode_mapping (by omega))
  rw [ofText, Lexed.ofText_flowListChars hname hlength hfirst hwords]
  show (do
    let found ← (readDocument (4 * (Lexed.flowListTokens name first words).length + 4)).run
      { tokens := Lexed.flowListTokens name first words }
    pure (found.1.map (Document.mk found.2.graph))) = _
  rw [hroot]
  rfl

end Document

end AssistedDialing.Yaml
