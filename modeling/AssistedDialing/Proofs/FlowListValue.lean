import AssistedDialing.Proofs.FlowListNodes
import AssistedDialing.Yaml.Evaluation

/-!
# The value of a list in a mapping

`ofText_flowList` says which value a mapping with a list in brackets has: the values of the words as
scalars, or the failure of the first word that has no value. The values become known in the order of
the nodes, so that a state of the evaluation is given by the values that are known, `progressAt`.
-/

namespace AssistedDialing.Yaml

open Document

theorem isCollectionTag_ofPlain (text : String) : isCollectionTag (.ofPlain text) = false := by
  simp only [Tag.ofPlain]
  repeat' split
  all_goals rfl

/-- `wordContent cs` is the value that a word has as a plain scalar. -/
def wordContent (cs : List Char) : Except Failure Content :=
  scalarContent (.ofPlain (String.ofList cs)) (String.ofList cs)

namespace Evaluation

/-- `progressAt nodes known unknown met` has read the values of the first nodes. -/
def progressAt (nodes : List Node) (known : List Content) (unknown : Nat) (met : List NodeId) :
    Progress where
  graph := ⟨nodes.toArray⟩
  values := (known.map some ++ List.replicate unknown none).toArray
  met := met

variable {nodes : List Node} {known : List Content} {unknown : Nat} {met : List NodeId}

theorem learn_run (content : Content) :
    (learn known.length content).run (progressAt nodes known (unknown + 1) met) =
      .ok ((), progressAt nodes (known ++ [content]) unknown met) := by
  have hset : (known.map some ++ List.replicate (unknown + 1) none).set known.length
      (some content) = (known ++ [content]).map some ++ List.replicate unknown none := by
    rw [List.set_append_right _ _ (by simp), List.length_map, Nat.sub_self, List.replicate_succ,
      List.set_cons_zero]
    simp
  simp only [progressAt, ← hset, ← List.setIfInBounds_toArray]
  rfl

/-- The value of the next node is not known. -/
theorem isNone_next :
    ((progressAt nodes known (unknown + 1) met).values.getD known.length none).isNone = true := by
  have hnext : (known.map some ++ List.replicate (unknown + 1) none)[known.length]? =
      some none := by
    rw [List.getElem?_append_right (by simp), List.length_map, Nat.sub_self]
    rfl
  rw [progressAt, Array.getD_eq_getD_getElem?, List.getElem?_toArray, hnext]
  rfl

theorem node_of_getElem? {id : NodeId} {node : Node} (h : nodes[id]? = some node) :
    Graph.node ⟨nodes.toArray⟩ id = node := by
  rw [Graph.node, Array.getD_eq_getD_getElem?, List.getElem?_toArray, h]
  rfl

theorem scalarContent_of_getElem? {id : NodeId} {tag : Tag} {text : String}
    (h : nodes[id]? = some (.scalar tag text)) :
    Graph.scalarContent ⟨nodes.toArray⟩ id = scalarContent tag text := by
  have htext (depth : Nat) : Graph.textWithin ⟨nodes.toArray⟩ (depth + 1) id = some text := by
    rw [Graph.textWithin, node_of_getElem? h]
  rw [Graph.scalarContent, htext, Graph.tag, node_of_getElem? h]
  simp only [Graph.isMapping, Bool.and_false, Bool.false_eq_true, if_false, Node.tag]

/-- A scalar that is met is read. -/
theorem meet_scalar {tag : Tag} {text : String}
    (hnode : nodes[known.length]? = some (.scalar tag text)) (htag : isCollectionTag tag = false) :
    (meet known.length).run (progressAt nodes known (unknown + 1) met) =
      (scalarContent tag text).map fun content ↦
        ((), progressAt nodes (known ++ [content]) unknown met) := by
  have hget : (get : Evaluation Progress).run (progressAt nodes known (unknown + 1) met) =
      .ok (progressAt nodes known (unknown + 1) met, progressAt nodes known (unknown + 1) met) :=
    rfl
  have hscalar : isCollectionTag ((progressAt nodes known (unknown + 1) met).graph.tag
      known.length) = false := by
    rw [progressAt, Graph.tag, node_of_getElem? hnode]
    exact htag
  have hcontent : (progressAt nodes known (unknown + 1) met).graph.scalarContent known.length =
      scalarContent tag text := scalarContent_of_getElem? hnode
  rw [meet, run_bind_ok hget, if_pos isNone_next, hscalar, hcontent]
  cases scalarContent tag text with
  | error failure => rfl
  | ok content => exact learn_run content

/-- A collection that is met is noted. -/
theorem meet_collection {node : Node} (hnode : nodes[known.length]? = some node)
    (htag : isCollectionTag node.tag = true) :
    (meet known.length).run (progressAt nodes known (unknown + 1) met) =
      .ok ((), progressAt nodes (known ++ [.list []]) unknown (known.length :: met)) := by
  have hget : (get : Evaluation Progress).run (progressAt nodes known (unknown + 1) met) =
      .ok (progressAt nodes known (unknown + 1) met, progressAt nodes known (unknown + 1) met) :=
    rfl
  have hcollection : isCollectionTag ((progressAt nodes known (unknown + 1) met).graph.tag
      known.length) = true := by
    rw [progressAt, Graph.tag, node_of_getElem? hnode]
    exact htag
  rw [meet, run_bind_ok hget, if_pos isNone_next, if_pos hcollection, run_bind_ok (learn_run _)]
  rfl

/-- The words of a list are read one after the other. -/
theorem meet_words {words : List (List Char)}
    (hnodes : ∀ index (h : index < words.length),
      nodes[known.length + index]? = some (wordNode words[index])) :
    ((List.range' known.length words.length).forM meet).run
        (progressAt nodes known words.length met) =
      (words.mapM wordContent).map fun contents ↦
        ((), progressAt nodes (known ++ contents) 0 met) := by
  induction words generalizing known with
  | nil =>
      rw [List.mapM_nil]
      show _ = Except.ok ((), progressAt nodes (known ++ []) 0 met)
      rw [List.append_nil]
      rfl
  | cons cs words ih =>
      have hfirst : (meet known.length).run (progressAt nodes known (words.length + 1) met) =
          (wordContent cs).map fun content ↦
            ((), progressAt nodes (known ++ [content]) words.length met) :=
        meet_scalar (hnodes 0 (Nat.zero_lt_succ _)) (isCollectionTag_ofPlain _)
      rw [List.length_cons, List.range'_succ, List.mapM_cons]
      show StateT.run (do
        meet known.length
        (List.range' (known.length + 1) words.length).forM meet) _ = _
      cases hcontent : wordContent cs with
      | error failure =>
          rw [hcontent] at hfirst
          rw [run_bind_error hfirst]
          rfl
      | ok content =>
          rw [hcontent] at hfirst
          have hlength : (known ++ [content]).length = known.length + 1 := List.length_append
          have hrest := @ih (known ++ [content]) (by
            intro index h
            have hnode := hnodes (index + 1) (Nat.succ_lt_succ h)
            rwa [hlength, Nat.add_assoc, Nat.add_comm 1])
          rw [hlength] at hrest
          rw [run_bind_ok hfirst, hrest]
          cases words.mapM wordContent with
          | error failure => rfl
          | ok contents =>
              show Except.ok ((), progressAt nodes (known ++ [content] ++ contents) 0 met) = _
              rw [List.append_assoc]
              rfl

/-- A round reads the parts of the only collection that was met. -/
theorem meetAll_one (rounds : Nat) (id : NodeId) :
    (meetAll (rounds + 1)).run (progressAt nodes known unknown [id]) =
      (do
        meetParts id
        meetAll rounds : Evaluation Unit).run (progressAt nodes known unknown []) := by
  have hparts : ([id].forM meetParts : Evaluation Unit) = meetParts id := bind_pure_unit
  rw [← hparts]
  rfl

theorem meetAll_nil (rounds : Nat) :
    (meetAll rounds).run (progressAt nodes known unknown []) =
      .ok ((), progressAt nodes known unknown []) := by
  cases rounds <;> rfl

/-! ## The rounds for a list in a mapping -/

section FlowList

variable {name : List Char} {words : List (List Char)}

/-- A mapping without special keys is flat. -/
theorem flatten_flowList (hname : Tag.ofPlain (String.ofList name) = .str) :
    Graph.flatten ⟨(flowListNodes name words).toArray⟩ 0 =
      some ⟨(flowListNodes name words).toArray⟩ := by
  have hpairs : Graph.pairs ⟨(flowListNodes name words).toArray⟩ 0 = [(1, 2)] := rfl
  have htag : Graph.tag ⟨(flowListNodes name words).toArray⟩ 1 = .str := hname
  rw [Graph.flatten, Graph.flattenWithin, hpairs, Graph.flattenPairs, htag]
  rfl

/-- Flattening a flat mapping changes nothing. -/
theorem flatten_run {progress : Progress} {id : NodeId}
    (h : progress.graph.flatten id = some progress.graph) :
    (flatten id).run progress = .ok (progress.graph.pairs id, progress) := by
  have hget : (get : Evaluation Progress).run progress = .ok (progress, progress) := rfl
  rw [flatten, run_bind_ok hget, h]
  rfl

/-- In the first round the key is read and the list is met. -/
theorem meetParts_mapping (hname : Tag.ofPlain (String.ofList name) = .str) :
    (meetParts 0).run (progressAt (flowListNodes name words) [.list []] (words.length + 2) []) =
      .ok ((), progressAt (flowListNodes name words)
        [.list [], .text (String.ofList name), .list []] words.length [2]) := by
  have hkey : (meet 1).run
      (progressAt (flowListNodes name words) [.list []] (words.length + 1 + 1) []) =
      .ok ((), progressAt (flowListNodes name words) [.list [], .text (String.ofList name)]
        (words.length + 1) []) := by
    have hnode : (flowListNodes name words)[[Content.list []].length]? =
        some (.scalar .str (String.ofList name)) := by
      rw [← hname]
      rfl
    exact meet_scalar hnode rfl
  have hvalue : (meet 2).run (progressAt (flowListNodes name words)
      [.list [], .text (String.ofList name)] (words.length + 1) []) =
      .ok ((), progressAt (flowListNodes name words)
        [.list [], .text (String.ofList name), .list []] words.length [2]) := by
    have hnode : (flowListNodes name words)[[Content.list [], .text (String.ofList name)].length]? =
        some (.sequence .seq (List.range' 3 words.length)) := rfl
    exact meet_collection hnode rfl
  have hpair : (meetPair (1, 2)).run
      (progressAt (flowListNodes name words) [.list []] (words.length + 2) []) =
      .ok ((), progressAt (flowListNodes name words)
        [.list [], .text (String.ofList name), .list []] words.length [2]) := by
    have htag : Graph.tag ⟨(flowListNodes name words).toArray⟩ 1 = .str := hname
    rw [meetPair, run_bind_ok hkey]
    show StateT.run (if isCollectionTag (Graph.tag ⟨(flowListNodes name words).toArray⟩ 1) then
      _ else _) _ = _
    rw [htag]
    exact hvalue
  show StateT.run (do
    let pairs ← flatten 0
    pairs.forM meetPair) _ = _
  rw [run_bind_ok (flatten_run (flatten_flowList hname))]
  show StateT.run (do
    meetPair (1, 2)
    return) _ = _
  rw [run_bind_ok hpair]
  rfl

/-- In the second round the words are read. -/
theorem meetParts_list :
    (meetParts 2).run (progressAt (flowListNodes name words)
        [.list [], .text (String.ofList name), .list []] words.length []) =
      (words.mapM wordContent).map fun contents ↦
        ((), progressAt (flowListNodes name words)
          (.list [] :: .text (String.ofList name) :: .list [] :: contents) 0 []) := by
  have hnodes (known : List Content) (hknown : known.length = 3) :
      ∀ index (h : index < words.length),
        (flowListNodes name words)[known.length + index]? = some (wordNode words[index]) := by
    intro index h
    have hshift : (flowListNodes name words)[3 + index]? = (words.map wordNode)[index]? := by
      rw [Nat.add_comm]
      rfl
    rw [hknown, hshift, List.getElem?_map, List.getElem?_eq_getElem h]
    rfl
  show StateT.run ((List.range' 3 words.length).forM meet) _ = _
  exact meet_words (hnodes [.list [], .text (String.ofList name), .list []] rfl)

/-- The values of a list in a mapping are known after two rounds. -/
theorem evaluate_flowList (hname : Tag.ofPlain (String.ofList name) = .str) :
    Document.evaluate ⟨⟨(flowListNodes name words).toArray⟩, 0⟩ =
      (words.mapM wordContent).map fun contents ↦ progressAt (flowListNodes name words)
        (.list [] :: .text (String.ofList name) :: .list [] :: contents) 0 [] := by
  have hsize : (flowListNodes name words).toArray.size = words.length + 3 := by
    rw [List.size_toArray, flowListNodes]
    simp
  have hroot : (meet 0).run (progressAt (flowListNodes name words) [] (words.length + 2 + 1) []) =
      .ok ((), progressAt (flowListNodes name words) [.list []] (words.length + 2) [0]) := by
    have hnode : (flowListNodes name words)[([] : List Content).length]? =
        some (.mapping .map [(1, 2)]) := rfl
    exact meet_collection hnode rfl
  have hstart : (⟨⟨(flowListNodes name words).toArray⟩,
      Array.replicate (words.length + 3) none, []⟩ : Progress) =
        progressAt (flowListNodes name words) [] (words.length + 2 + 1) [] := by
    rw [progressAt, List.map_nil, List.nil_append, ← List.toArray_replicate]
  have hrounds : (meetAll (words.length + 3 + 1)).run
      (progressAt (flowListNodes name words) [.list []] (words.length + 2) [0]) =
        (words.mapM wordContent).map fun contents ↦ ((), progressAt (flowListNodes name words)
          (.list [] :: .text (String.ofList name) :: .list [] :: contents) 0 []) := by
    rw [meetAll_one, run_bind_ok (meetParts_mapping hname), meetAll_one]
    have hlist := @meetParts_list name words
    cases hwords : words.mapM wordContent with
    | error failure =>
        rw [hwords] at hlist
        rw [run_bind_error hlist]
        rfl
    | ok contents =>
        rw [hwords] at hlist
        rw [run_bind_ok hlist, meetAll_nil]
        rfl
  have hevaluate : Document.evaluate ⟨⟨(flowListNodes name words).toArray⟩, 0⟩ = (do
      let found ← StateT.run (do
        meet 0
        meetAll ((flowListNodes name words).toArray.size + 1))
          ⟨⟨(flowListNodes name words).toArray⟩,
            Array.replicate (flowListNodes name words).toArray.size none, []⟩
      pure found.2) := rfl
  rw [hevaluate, hsize, hstart, run_bind_ok hroot, hrounds]
  cases words.mapM wordContent <;> rfl

end FlowList

end Evaluation

/-- Several computations succeed when each of them does. -/
theorem mapM_eq_ok_iff {ε α β : Type} {f : α → Except ε β} {xs : List α} {ys : List β} :
    xs.mapM f = .ok ys ↔ xs.map f = ys.map .ok := by
  induction xs generalizing ys with
  | nil =>
      cases ys with
      | nil => exact iff_of_true rfl rfl
      | cons y ys => exact iff_of_false (by rintro ⟨⟩) (by rintro ⟨⟩)
  | cons x xs ih =>
      rw [List.mapM_cons, List.map_cons]
      constructor
      · intro h
        cases hfirst : f x with
        | error error =>
            rw [hfirst] at h
            cases h
        | ok y =>
            cases hrest : xs.mapM f with
            | error error =>
                rw [hfirst, hrest] at h
                cases h
            | ok others =>
                rw [hfirst, hrest] at h
                obtain rfl : y :: others = ys := Except.ok.inj h
                rw [ih.mp hrest, List.map_cons]
      · intro h
        cases ys with
        | nil => cases h
        | cons y ys =>
            rw [List.map_cons, List.cons.injEq] at h
            rw [h.1, ih.mpr h.2]
            rfl

namespace Content

open Evaluation

variable {nodes : List Node}

theorem value_of_getElem? {known : List Content} {id : NodeId} {content : Content}
    (h : known[id]? = some content) :
    ((progressAt nodes known 0 []).values.getD id none).getD .null = content := by
  have hvalue : (known.map some ++ List.replicate 0 none)[id]? = some (some content) := by
    rw [List.replicate_zero, List.append_nil, List.getElem?_map, h]
    rfl
  rw [progressAt, Array.getD_eq_getD_getElem?, List.getElem?_toArray, hvalue]
  rfl

/-- The items of the sequence have the values that the words have. -/
theorem map_content_items (known contents : List Content) :
    (List.range' known.length contents.length).map
        ((progressAt nodes (known ++ contents) 0 []).content 0) = contents := by
  apply List.ext_getElem
  · simp
  · intro index hindex hcontent
    have hknown : (known ++ contents)[known.length + index]? = some contents[index] := by
      rw [List.getElem?_append_right (Nat.le_add_right _ _), Nat.add_sub_cancel_left,
        List.getElem?_eq_getElem hcontent]
    rw [List.getElem_map, List.getElem_range', Nat.one_mul]
    exact value_of_getElem? hknown

/-- The value of a mapping whose only value is a list, when the words have values. -/
theorem content_flowList {name : List Char} {words : List (List Char)} {contents : List Content}
    (hlength : contents.length = words.length)
    (hname : Tag.ofPlain (String.ofList name) = .str) :
    (progressAt (flowListNodes name words)
      (.list [] :: .text (String.ofList name) :: .list [] :: contents) 0 []).content shownDepth 0 =
        .mapping [(.text (String.ofList name), .list contents)] := by
  have hkey : (progressAt (flowListNodes name words)
      (.list [] :: .text (String.ofList name) :: .list [] :: contents) 0 []).content 1 1 =
        .text (String.ofList name) := by
    have htag : (progressAt (flowListNodes name words)
      (.list [] :: .text (String.ofList name) :: .list [] :: contents) 0 []).graph.tag 1 = .str :=
      hname
    rw [Progress.content, htag]
    rfl
  have hlist : (progressAt (flowListNodes name words)
      (.list [] :: .text (String.ofList name) :: .list [] :: contents) 0 []).content 1 2 =
        .list contents := by
    have hitems : (List.range' 3 contents.length).map ((progressAt (flowListNodes name words)
        ([.list [], .text (String.ofList name), .list []] ++ contents) 0 []).content 0) =
          contents := map_content_items _ contents
    rw [hlength] at hitems
    exact congrArg Content.list hitems
  show Content.mapping [(Progress.content _ 1 1, Progress.content _ 1 2)] = _
  rw [hkey, hlist]

/-- A mapping whose only value is a list in brackets has the values of the words. -/
theorem ofText_flowListChars {name first : List Char} {words : List (List Char)} (hname : IsWord name)
    (hlength : name.length ≤ 1024) (hkey : Tag.ofPlain (String.ofList name) = .str)
    (hfirst : IsWord first) (hwords : ∀ cs ∈ words, IsWord cs) :
    Content.ofText (String.ofList (Lexed.flowListChars name first words)) =
      ((first :: words).mapM wordContent).map fun contents ↦
        .mapping [(.text (String.ofList name), .list contents)] := by
  have hdocument := Document.ofText_flowListChars hname hlength hfirst hwords
  rw [Content.ofText, hdocument]
  show (do
    let progress ← Document.evaluate ⟨⟨(flowListNodes name (first :: words)).toArray⟩, 0⟩
    return progress.content shownDepth 0) = _
  rw [evaluate_flowList hkey]
  cases hcontents : (first :: words).mapM wordContent with
  | error failure => rfl
  | ok contents =>
      have hcount : contents.length = (first :: words).length := by
        rw [← List.length_map Except.ok, ← mapM_eq_ok_iff.mp hcontents, List.length_map]
      exact congrArg Except.ok (content_flowList hcount hkey)

/-- `flowList name words` is a mapping whose only value is a list in brackets. -/
def flowList (name : String) (words : List String) : String :=
  name ++ ": [" ++ ", ".intercalate words ++ "]"

theorem flowList_cons (name first : String) (words : List String) :
    flowList name (first :: words) = String.ofList (Lexed.flowListChars name.toList first.toList
      (words.map String.toList)) := by
  have hitems : (", ".intercalate (first :: words)).toList ++ [']'] =
      first.toList ++ Lexed.itemChars (words.map String.toList) := by
    induction words generalizing first with
    | nil => rfl
    | cons word words ih =>
        rw [String.intercalate_cons_cons, String.toList_append, String.toList_append,
          List.append_assoc, ih, List.map_cons, Lexed.itemChars_cons, List.append_assoc]
        rfl
  rw [← String.toList_inj, flowList, Lexed.flowListChars, String.toList_ofList, ← hitems]
  simp

/-- A mapping whose only value is a list in brackets has the values of the words. -/
theorem ofText_flowList {name : String} {words : List String} (hname : IsWord name.toList)
    (hlength : name.length ≤ 1024) (hkey : Tag.ofPlain name = .str) (hne : words ≠ [])
    (hwords : ∀ word ∈ words, IsWord word.toList) :
    Content.ofText (flowList name words) =
      (words.mapM fun word ↦ wordContent word.toList).map fun contents ↦
        .mapping [(.text name, .list contents)] := by
  obtain ⟨first, words, rfl⟩ := List.exists_cons_of_ne_nil hne
  have hothers : ∀ cs ∈ words.map String.toList, IsWord cs := by
    rw [List.forall_mem_map]
    exact fun word hword ↦ hwords word (List.mem_cons_of_mem _ hword)
  have hmap : ((first :: words).map String.toList).mapM wordContent =
      (first :: words).mapM fun word ↦ wordContent word.toList := List.mapM_map
  rw [flowList_cons, ofText_flowListChars hname hlength (by rwa [String.ofList_toList])
    (hwords first List.mem_cons_self) hothers, ← hmap, String.ofList_toList]
  rfl

end Content

end AssistedDialing.Yaml
