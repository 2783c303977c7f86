import CallTree.Proofs.Log.Segments
import CallTree.Proofs.Tree.Shape

/-!
# Ids say where calls stand

In the tree of a trace the id of a call spells out its place, and splits back
into its depth, the id of its caller and its index there.  The ids of results do
not split, since they end with a letter.  The id of a record does split, but
what it says in the place of the caller's id ends with a letter that no id of
the tree ends with, so a record is never filed under a call.

An index and a depth have 64 bits.  That is no restriction on a trace in the
memory of a machine whose addresses have 64 bits; the statement asks for fewer
than 2⁶⁴ calls and logs.

* `exists_call_of_record` — the id of a record is put together like that of a
  call;
* `getLast?_id_ne` — how no id of a tree ends;
* `exists_node_of_call`, `split?_of_result`, `exists_split?_of_record` — what the
  ids of calls, results and records say;
* `ids_say_places` — the ids of the tree of a trace say where their calls stand.
-/

namespace CallTree.Tree

/-- Whether a node is the node of a call: it stands where a path leads to a
call. -/
def IsCallNode (entry : Frame) (tree node : Node) : Prop :=
  ∃ path call, entry.call? path = some call ∧ tree.at? path = some node

/-- What the ids of the tree of a trace say. -/
structure IdsSayPlaces (entry : Frame) (tree : Node) : Prop where
  /-- The id of a call spells out the path to it, and splits into its depth, the
  id of its caller's node and its index. -/
  calls : ∀ path call, entry.call? path = some call →
    ∃ node, tree.at? path = some node ∧ node.id = NodeId.ofPath path ∧
      ∀ front index, path = front ++ [index] →
        ∃ caller, tree.at? front = some caller ∧
          NodeId.split? node.id = some (path.length, caller.id, index)
  /-- A node that shows neither a call nor a record shows a result, and its id
  does not split. -/
  results : ∀ node ∈ tree.walk, node.isLog = false → ¬ IsCallNode entry tree node →
    (∃ id, node.id = id ++ "-error" ∨ node.id = id ++ "-output") ∧
      NodeId.split? node.id = none
  /-- The id of a record splits, but not into the id of any node. -/
  records : ∀ node ∈ tree.walk, node.isLog = true →
    ∃ depth parent index, NodeId.split? node.id = some (depth, parent, index) ∧
      ∀ other ∈ tree.walk, other.id ≠ parent

namespace NodeId

/-- The id of a call below the first one ends with a digit. -/
theorem getLast?_below_root_ne {c : Char} (hc : Text.digitIn? 10 c = none) (path : List Nat) :
    (below 0 root path).toList.getLast? ≠ some c := by
  rcases List.eq_nil_or_concat path with rfl | ⟨front, index, rfl⟩
  · intro hlast
    obtain rfl : '0' = c := Option.some.inj hlast
    exact absurd hc (by decide)
  · have hform : (below 0 root (front ++ [index])).toList =
        (Nat.toDigits 10 (depthBelow 0 (front ++ [index])) ++
          '-' :: ((below 0 root front).toList ++ ['-'])) ++ Nat.toDigits 10 index := by
      rw [below_append_singleton, toList_call]
      simp
    rw [List.concat_eq_append, hform]
    exact Text.getLast?_append_toDigits_ne (by decide) (by decide) hc _ index

/-- The id of a record is put together like that of a call, around a text that
ends with a letter. -/
theorem exists_call_of_record {path : List Nat} (hpath : path.length < 2 ^ 64) (index : Nat) :
    ∃ depth parent, depth < 2 ^ 64 ∧ parent.toList.getLast? = some 'g' ∧
      below 0 root path ++ "-log-" ++ index.repr = call depth parent index := by
  rcases List.eq_nil_or_concat path with rfl | ⟨front, last, rfl⟩
  · exact ⟨0, "log", by decide, rfl, rfl⟩
  · rw [List.concat_eq_append] at hpath ⊢
    refine ⟨depthBelow 0 (front ++ [last]), below 0 root front ++ "-" ++ last.repr ++ "-log",
      ?_, ?_, ?_⟩
    · rw [depthBelow_eq (by omega)]
      omega
    · rw [String.toList_append, List.getLast?_append]
      rfl
    · rw [below_append_singleton, ← String.toList_inj]
      simp [call, String.toList_append]

end NodeId

variable {style : Style} {entry : Frame}

/-- The id of a result ends with a letter. -/
theorem getLast?_id_of_resultNode? {id : String} {call : Frame} {node : Node}
    (h : resultNode? style id call = some node) :
    ∃ c, node.id.toList.getLast? = some c ∧ c ≠ 'g' ∧ Text.digitIn? 10 c = none := by
  obtain ⟨_, _, hid | hid⟩ := resultNode?_cases style id call h
  · refine ⟨'r', ?_, by decide, by decide⟩
    rw [hid, String.toList_append, List.getLast?_append]
    rfl
  · refine ⟨'t', ?_, by decide, by decide⟩
    rw [hid, String.toList_append, List.getLast?_append]
    rfl

/-- No id of the tree of a trace ends with the letter that records have in the
place of the caller's id. -/
theorem getLast?_id_ne {node : Node}
    (h : node ∈ (callNode style NodeId.root 0 entry).walk) :
    node.id.toList.getLast? ≠ some 'g' := by
  obtain ⟨path, call, _, hbelongs⟩ := mem_walk_callNode h
  have hg : Text.digitIn? 10 'g' = none := by decide
  cases hbelongs with
  | call =>
      rw [id_callNode]
      exact NodeId.getLast?_below_root_ne hg path
  | result hresult =>
      obtain ⟨c, hlast, hne, _⟩ := getLast?_id_of_resultNode? hresult
      rw [hlast]
      exact fun heq => hne (Option.some.inj heq)
  | record index record hrecord =>
      rw [logNode, String.toList_append, Nat.toList_repr]
      exact Text.getLast?_append_toDigits_ne (by decide) (by decide) hg _ index

/-- The place of a call in the tree of a trace. -/
theorem at?_root (style : Style) {path : List Nat} {call : Frame}
    (h : entry.call? path = some call) :
    ∃ node, (callNode style NodeId.root 0 entry).at? path = some node ∧
      node.id = NodeId.below 0 NodeId.root path :=
  ⟨_, at?_callNode 0 NodeId.root h, id_callNode _ _ _ _⟩

/-- The id of a call splits into its depth, the id of its caller and its index. -/
theorem split?_below_root {front : List Nat} {index : Nat}
    (hpath : (front ++ [index]).length < 2 ^ 64) (hindex : index < 2 ^ 64) :
    NodeId.split? (NodeId.below 0 NodeId.root (front ++ [index])) =
      some ((front ++ [index]).length, NodeId.below 0 NodeId.root front, index) := by
  have hdepth : NodeId.depthBelow 0 (front ++ [index]) = (front ++ [index]).length := by
    rw [NodeId.depthBelow_eq (by omega), Nat.zero_add]
  rw [NodeId.below_append_singleton, hdepth]
  exact NodeId.split?_call hpath hindex _

/-- The id of a call spells out the path to it and splits into the id of its
caller. -/
theorem exists_node_of_call {path : List Nat} {call : Frame} (hsize : entry.size < 2 ^ 64)
    (hcall : entry.call? path = some call) :
    ∃ node, (callNode style NodeId.root 0 entry).at? path = some node ∧
      node.id = NodeId.ofPath path ∧
      ∀ front index, path = front ++ [index] →
        ∃ caller, (callNode style NodeId.root 0 entry).at? front = some caller ∧
          NodeId.split? node.id = some (path.length, caller.id, index) := by
  have hlength := Frame.length_add_size_le hcall
  obtain ⟨node, hnode, hid⟩ := at?_root style hcall
  refine ⟨node, hnode, hid.trans (NodeId.below_root (by omega)), ?_⟩
  rintro front index rfl
  obtain ⟨caller, hcaller, hcalled⟩ := Frame.call?_append_singleton hcall
  have hindex := Frame.index_lt_size hcalled
  have hfront := Frame.length_add_size_le hcaller
  obtain ⟨above, habove, hcallerId⟩ := at?_root style hcaller
  refine ⟨above, habove, ?_⟩
  rw [hid, hcallerId]
  exact split?_below_root (by omega) (by omega)

/-- The id of a result does not split. -/
theorem split?_of_result {node : Node} (hmem : node ∈ (callNode style NodeId.root 0 entry).walk)
    (hlog : node.isLog = false)
    (hcallNode : ¬ IsCallNode entry (callNode style NodeId.root 0 entry) node) :
    (∃ id, node.id = id ++ "-error" ∨ node.id = id ++ "-output") ∧
      NodeId.split? node.id = none := by
  obtain ⟨path, call, hcall, hbelongs⟩ := mem_walk_callNode hmem
  cases hbelongs with
  | call => exact absurd ⟨path, call, hcall, at?_callNode 0 NodeId.root hcall⟩ hcallNode
  | result hresult =>
      obtain ⟨_, _, hid⟩ := resultNode?_cases _ _ _ hresult
      obtain ⟨c, hlast, _, hc⟩ := getLast?_id_of_resultNode? hresult
      exact ⟨⟨_, hid⟩, NodeId.split?_eq_none_of_getLast? hlast hc⟩
  | record index record hrecord => cases hlog

/-- The id of a record splits into something that is no id of the tree. -/
theorem exists_split?_of_record {node : Node} (hsize : entry.size < 2 ^ 64)
    (hmem : node ∈ (callNode style NodeId.root 0 entry).walk) (hlog : node.isLog = true) :
    ∃ depth parent index, NodeId.split? node.id = some (depth, parent, index) ∧
      ∀ other ∈ (callNode style NodeId.root 0 entry).walk, other.id ≠ parent := by
  obtain ⟨path, call, hcall, hbelongs⟩ := mem_walk_callNode hmem
  cases hbelongs with
  | call =>
      rw [isLog_callNode] at hlog
      cases hlog
  | result hresult =>
      rw [(resultNode?_cases _ _ _ hresult).1] at hlog
      cases hlog
  | record index record hrecord =>
      have hlength := Frame.length_add_size_le hcall
      have hindex : index < 2 ^ 64 := by
        have hlt := (List.getElem?_eq_some_iff.mp hrecord).1
        have hle := Log.length_records_le call.logs
        have hlogs := Frame.size_eq call
        omega
      obtain ⟨depth, parent, hdepth, hlast, hid⟩ :=
        NodeId.exists_call_of_record (by omega : path.length < 2 ^ 64) index
      refine ⟨depth, parent, index, ?_, ?_⟩
      · rw [logNode, hid]
        exact NodeId.split?_call hdepth hindex parent
      · intro other hother heq
        exact getLast?_id_ne hother (heq ▸ hlast)

/-- **Ids say where calls stand**, in the tree of every trace that a machine with
addresses of 64 bits can hold. -/
theorem ids_say_places (style : Style) (entry : Frame) (rest : List Frame)
    (hsize : entry.size < 2 ^ 64) :
    ∃ tree, ofFrames style (entry :: rest) = some tree ∧ IdsSayPlaces entry tree := by
  refine ⟨callNode style NodeId.root 0 entry, rfl, ⟨?calls, ?results, ?records⟩⟩
  case calls =>
    intro path call hcall
    exact exists_node_of_call hsize hcall
  case results =>
    intro node hmem hlog hcallNode
    exact split?_of_result hmem hlog hcallNode
  case records =>
    intro node hmem hlog
    exact exists_split?_of_record hsize hmem hlog

/-- A call that failed, after a call that gave back a text and emitted a log. -/
def failedAfterCall : Frame :=
  { (default : Frame) with
    output := .tokens [.string "no funds"]
    inner := [{ (default : Frame) with
      success := true
      output := .text "done"
      logs := [⟨"log_named", "", none, KeyMap.empty⟩, ⟨"log_named", "", none, KeyMap.empty⟩] }] }

theorem ids_say_places_failedAfterCall :
    failedAfterCall.size < 2 ^ 64 ∧
      ∃ tree, ofFrames Style.default [failedAfterCall] = some tree ∧
        IdsSayPlaces failedAfterCall tree :=
  ⟨by decide, ids_say_places Style.default failedAfterCall [] (by decide)⟩

end CallTree.Tree
