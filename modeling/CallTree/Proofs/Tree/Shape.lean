import CallTree.Tree.Build
import CallTree.Proofs.Frame.Path
import CallTree.Proofs.Tree.NodeId

/-!
# The shape of a display tree

The children of a call's node are the nodes of the calls that it made, then the
node of its result, then the nodes of its records; result and records have no
children.  So a path of indices leads to the same call in the frame and in the
tree, and a walk over the tree meets the nodes of the calls at all paths.

* `children_callNode`, `walk_callNode` — the parts of a call's node, and of a
  walk over it;
* `at?_callNode` — the node at the end of a path is that of the call at its end;
* `mem_walk_callNode` — what a walk meets belongs to the call at some path.
-/

namespace CallTree.Tree

namespace Node

/-- The node at the end of a path of child indices. -/
def at? : List Nat → Node → Option Node
  | [], node => some node
  | index :: path, node => (node.children[index]?).bind (at? path)

theorem walk_eq (node : Node) : node.walk = node :: walkAll node.children := by
  cases node
  rw [walk]

theorem walkAll_append (nodes others : List Node) :
    walkAll (nodes ++ others) = walkAll nodes ++ walkAll others := by
  induction nodes with
  | nil => rfl
  | cons node nodes ih => rw [List.cons_append, walkAll, walkAll, ih, List.append_assoc]

/-- A walk over nodes without children meets these nodes only. -/
theorem walkAll_of_leaves {nodes : List Node} (h : ∀ node ∈ nodes, node.children = []) :
    walkAll nodes = nodes := by
  induction nodes with
  | nil => rfl
  | cons node nodes ih =>
      have hleaf : node.children = [] := h node List.mem_cons_self
      have hrest := ih fun node hmem => h node (List.mem_cons_of_mem _ hmem)
      rw [walkAll, walk_eq, hleaf, walkAll, hrest, List.singleton_append]

end Node

/-! ## The parts of a call's node -/

section Parts

variable (style : Style) (id : String) (depth : Nat) (frame : Frame)

theorem children_callNode :
    (callNode style id depth frame).children =
      callNodes style id (NodeId.deeper depth) 0 frame.inner ++
        (resultNode? style id frame).toList ++ logNodes style id frame.logs := by
  cases frame
  rw [callNode]

theorem id_callNode : (callNode style id depth frame).id = id := by
  cases frame
  rw [callNode]

theorem isLog_callNode : (callNode style id depth frame).isLog = false := by
  cases frame
  rw [callNode]

/-- The node of a result shows no record, has no children, and says in its id
which call it belongs to. -/
theorem resultNode?_cases {node : Node} (h : resultNode? style id frame = some node) :
    node.isLog = false ∧ node.children = [] ∧
      (node.id = id ++ "-error" ∨ node.id = id ++ "-output") := by
  unfold resultNode? at h
  split at h
  · cases h
  · split at h
    · split at h
      · cases h
        exact ⟨rfl, rfl, Or.inr rfl⟩
      · cases h
        exact ⟨rfl, rfl, Or.inr rfl⟩
      · cases h
    · split at h
      · cases h
        exact ⟨rfl, rfl, Or.inl rfl⟩
      · cases h

theorem children_eq_nil_of_mem_logNodes {entries : List Log.Entry} {node : Node}
    (h : node ∈ logNodes style id entries) : node.children = [] := by
  obtain ⟨index, hlt, rfl⟩ := List.mem_mapIdx.mp h
  rfl

theorem children_eq_nil_of_mem_resultNode? {node : Node}
    (h : node ∈ (resultNode? style id frame).toList) : node.children = [] :=
  (resultNode?_cases style id frame (Option.mem_toList.mp h)).2.1

/-- **A walk over a call's node** meets the node, the trees of the calls that
the call made, its result and its records. -/
theorem walk_callNode :
    (callNode style id depth frame).walk =
      callNode style id depth frame ::
        (Node.walkAll (callNodes style id (NodeId.deeper depth) 0 frame.inner) ++
          ((resultNode? style id frame).toList ++ logNodes style id frame.logs)) := by
  have hresult : Node.walkAll (resultNode? style id frame).toList =
      (resultNode? style id frame).toList :=
    Node.walkAll_of_leaves fun _ hmem => children_eq_nil_of_mem_resultNode? style id frame hmem
  have hlogs : Node.walkAll (logNodes style id frame.logs) = logNodes style id frame.logs :=
    Node.walkAll_of_leaves fun _ hmem => children_eq_nil_of_mem_logNodes style id hmem
  rw [Node.walk_eq, children_callNode, Node.walkAll_append, Node.walkAll_append, hresult, hlogs,
    List.append_assoc]

end Parts

/-! ## Paths -/

variable {style : Style}

/-- The node of a call stands where the call stands among its siblings. -/
theorem getElem?_callNodes (style : Style) (parent : String) (depth first index : Nat)
    (frames : List Frame) :
    (callNodes style parent depth first frames)[index]? =
      (frames[index]?).map (callNode style (NodeId.call depth parent (first + index)) depth) := by
  induction frames generalizing first index with
  | nil => simp [callNodes]
  | cons frame frames ih =>
      cases index with
      | zero => simp [callNodes]
      | succ index =>
          rw [callNodes, List.getElem?_cons_succ, ih, List.getElem?_cons_succ]
          have hindex : first + 1 + index = first + (index + 1) := by omega
          rw [hindex]

/-- **The node at the end of a path is that of the call at its end.** -/
theorem at?_callNode {path : List Nat} {frame call : Frame} (depth : Nat) (id : String)
    (h : frame.call? path = some call) :
    (callNode style id depth frame).at? path =
      some (callNode style (NodeId.below depth id path) (NodeId.depthBelow depth path) call) := by
  induction path generalizing frame depth id with
  | nil =>
      cases h
      rfl
  | cons index path ih =>
      obtain ⟨next, hnext, hrest⟩ := Option.bind_eq_some_iff.mp h
      have hchild : (callNode style id depth frame).children[index]? =
          some (callNode style (NodeId.call (NodeId.deeper depth) id index)
            (NodeId.deeper depth) next) := by
        obtain ⟨hlt, _⟩ := List.getElem?_eq_some_iff.mp hnext
        have hcalls := getElem?_callNodes style id (NodeId.deeper depth) 0 index frame.inner
        rw [hnext, Nat.zero_add, Option.map_some] at hcalls
        have hbound := (List.getElem?_eq_some_iff.mp hcalls).1
        rw [children_callNode, List.append_assoc, List.getElem?_append_left hbound, hcalls]
      rw [Node.at?, hchild, Option.bind_some, ih _ _ hrest]
      rfl

/-- A node of a tree belongs to the call of the given id: it is the node of the
call, of its result, or of one of its records. -/
inductive BelongsTo (style : Style) (id : String) (depth : Nat) (call : Frame) : Node → Prop
  | call : BelongsTo style id depth call (callNode style id depth call)
  | result {node : Node} (h : resultNode? style id call = some node) :
      BelongsTo style id depth call node
  | record (index : Nat) (record : Log.Record) (h : (Log.records call.logs)[index]? = some record) :
      BelongsTo style id depth call (logNode style id index record)

/-- A walk over the nodes of several calls is a walk over each of them. -/
theorem mem_walkAll_callNodes {parent : String} {depth first : Nat} {frames : List Frame}
    {node : Node} (h : node ∈ Node.walkAll (callNodes style parent depth first frames)) :
    ∃ (index : Nat) (frame : Frame), frames[index]? = some frame ∧
      node ∈ (callNode style (NodeId.call depth parent (first + index)) depth frame).walk := by
  induction frames generalizing first with
  | nil => cases h
  | cons frame frames ih =>
      rw [callNodes, Node.walkAll, List.mem_append] at h
      rcases h with hfirst | hrest
      · exact ⟨0, frame, rfl, hfirst⟩
      · obtain ⟨index, frame', hframe', hmem⟩ := ih hrest
        have hindex : first + 1 + index = first + (index + 1) := by omega
        rw [hindex] at hmem
        exact ⟨index + 1, frame', hframe', hmem⟩

/-- **What a walk meets belongs to the call at some path.** -/
theorem mem_walk_callNode {id : String} {depth : Nat} {frame : Frame} {node : Node}
    (h : node ∈ (callNode style id depth frame).walk) :
    ∃ (path : List Nat) (call : Frame), frame.call? path = some call ∧
      BelongsTo style (NodeId.below depth id path) (NodeId.depthBelow depth path) call node := by
  induction frame using Frame.callInduction generalizing id depth with
  | step frame ih =>
      rw [walk_callNode, List.mem_cons, List.mem_append, List.mem_append] at h
      rcases h with rfl | hcalls | hresult | hlogs
      · exact ⟨[], frame, rfl, BelongsTo.call⟩
      · obtain ⟨index, next, hnext, hmem⟩ := mem_walkAll_callNodes hcalls
        rw [Nat.zero_add] at hmem
        obtain ⟨path, call, hcall, hbelongs⟩ := ih next (List.mem_of_getElem? hnext) hmem
        exact ⟨index :: path, call, by simp [Frame.call?, hnext, hcall], hbelongs⟩
      · exact ⟨[], frame, rfl, BelongsTo.result (Option.mem_toList.mp hresult)⟩
      · obtain ⟨index, hlt, rfl⟩ := List.mem_mapIdx.mp hlogs
        exact ⟨[], frame, rfl, BelongsTo.record index _ (List.getElem?_eq_getElem hlt)⟩

end CallTree.Tree
