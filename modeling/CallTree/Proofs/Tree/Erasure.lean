import CallTree.Proofs.Tree.Shape

/-!
# What place and style decide

The node of a call is built from the call, from its place and from a style.  The
place goes into the ids alone and the style into the colours alone, so two trees
of one call are equal as soon as what differs between their builds is left out of
sight.

Two builds run side by side.  They are at different ids and depths on every level,
and what relates these on one level has to relate them on the next: either
nothing at all, where ids are left out, or that they are equal.

* `Node.mapEach` — a tree with a change made to each of its nodes;
* `Blind` — a change that leaves nothing of what differs between two builds;
* `mapEach_callNode` — such a change makes their trees equal;
* `place_and_style_do_not_interfere` — ids depend on the place alone, and colours
  on the style.
-/

namespace CallTree.Tree

namespace Node

mutual

/-- A tree with a change made to each node; what stands below a node stays below
it. -/
def mapEach (change : Node → Node) : Node → Node
  | node@⟨_, _, _, _, _, _, _, _, _, _, children, _⟩ =>
      { change node with children := mapEachAll change children }

/-- Several trees with a change made to each node. -/
def mapEachAll (change : Node → Node) : List Node → List Node
  | [] => []
  | node :: nodes => mapEach change node :: mapEachAll change nodes

end

/-- A node whose id is left out of sight. -/
def withoutId (node : Node) : Node := { node with id := "" }

/-- A node whose colours are left out of sight. -/
def withoutColours (node : Node) : Node := { node with stroke := "", fill := "" }

theorem mapEach_eq (change : Node → Node) (node : Node) :
    node.mapEach change =
      { change node with children := mapEachAll change node.children } := by
  cases node
  rw [mapEach]

theorem mapEachAll_eq_map (change : Node → Node) (nodes : List Node) :
    mapEachAll change nodes = nodes.map (mapEach change) := by
  induction nodes with
  | nil => rfl
  | cons node nodes ih => rw [mapEachAll, ih, List.map_cons]

/-- Two nodes are equal once changed if they are so apart from what stands below
them, and that is so, too. -/
theorem mapEach_congr {change : Node → Node} {node other : Node}
    (hown : { change node with children := [] } = { change other with children := [] })
    (hchildren : node.children.map (mapEach change) = other.children.map (mapEach change)) :
    node.mapEach change = other.mapEach change := by
  rw [mapEach_eq, mapEach_eq, mapEachAll_eq_map, mapEachAll_eq_map, hchildren]
  exact congrArg (fun own => { own with children := other.children.map (mapEach change) }) hown

end Node

/-- A change of nodes that leaves nothing of what differs between two builds, of
which the first is at the id and depth `here` where the second is at `there`. -/
structure Blind (change : Node → Node) (style style' : Style)
    (Related : (here there : String × Nat) → Prop) : Prop where
  /-- What relates two calls relates those that they made. -/
  below : ∀ {id id' : String} {depth depth' : Nat} (index : Nat),
    Related (id, depth) (id', depth') →
      Related (NodeId.call (NodeId.deeper depth) id index, NodeId.deeper depth)
        (NodeId.call (NodeId.deeper depth') id' index, NodeId.deeper depth')
  call : ∀ {id id' : String} {depth depth' : Nat} (frame : Frame),
    Related (id, depth) (id', depth') →
      { change (callNode style id depth frame) with children := [] } =
        { change (callNode style' id' depth' frame) with children := [] }
  reason : ∀ {id id' : String} {depth depth' : Nat} (cost : Nat) (reason : Token),
    Related (id, depth) (id', depth') →
      (errorNode style id cost reason).mapEach change =
        (errorNode style' id' cost reason).mapEach change
  output : ∀ {id id' : String} {depth depth' : Nat} (text : String),
    Related (id, depth) (id', depth') →
      (outputNode style id text).mapEach change = (outputNode style' id' text).mapEach change
  record : ∀ {id id' : String} {depth depth' : Nat} (index : Nat) (record : Log.Record),
    Related (id, depth) (id', depth') →
      (logNode style id index record).mapEach change =
        (logNode style' id' index record).mapEach change

variable {change : Node → Node} {style style' : Style}
  {Related : (here there : String × Nat) → Prop}

theorem map_mapEach_callNodes (h : Blind change style style' Related) {id id' : String}
    {depth depth' : Nat} (hrelated : Related (id, depth) (id', depth')) (first : Nat)
    {frames : List Frame}
    (hcalls : ∀ frame ∈ frames, ∀ {id id' : String} {depth depth' : Nat},
      Related (id, depth) (id', depth') →
        (callNode style id depth frame).mapEach change =
          (callNode style' id' depth' frame).mapEach change) :
    (callNodes style id (NodeId.deeper depth) first frames).map (Node.mapEach change) =
      (callNodes style' id' (NodeId.deeper depth') first frames).map (Node.mapEach change) := by
  induction frames generalizing first with
  | nil => rfl
  | cons frame frames ih =>
      have hfirst := hcalls frame List.mem_cons_self (h.below first hrelated)
      have hrest := ih (first + 1) fun frame hmem => hcalls frame (List.mem_cons_of_mem _ hmem)
      rw [callNodes, callNodes, List.map_cons, List.map_cons, hfirst, hrest]

theorem map_mapEach_resultNode? (h : Blind change style style' Related) {id id' : String}
    {depth depth' : Nat} (hrelated : Related (id, depth) (id', depth')) (frame : Frame) :
    (resultNode? style id frame).map (Node.mapEach change) =
      (resultNode? style' id' frame).map (Node.mapEach change) := by
  unfold resultNode?
  split
  · rfl
  · split
    · rcases frame.output.tokens? with _ | tokens
      · rcases frame.output.text? with _ | text
        · rfl
        · exact congrArg some (h.output _ hrelated)
      · exact congrArg some (h.output _ hrelated)
    · rcases frame.output.tokens? with _ | _ | ⟨reason, more⟩
      · rfl
      · rfl
      · exact congrArg some (h.reason _ _ hrelated)

theorem map_mapEach_logNodes (h : Blind change style style' Related) {id id' : String}
    {depth depth' : Nat} (hrelated : Related (id, depth) (id', depth'))
    (entries : List Log.Entry) :
    (logNodes style id entries).map (Node.mapEach change) =
      (logNodes style' id' entries).map (Node.mapEach change) := by
  refine List.ext_getElem? fun index => ?_
  simp only [logNodes, List.getElem?_map, List.getElem?_mapIdx, Option.map_map]
  refine congrArg (fun shown => (Log.records entries)[index]?.map shown) (funext fun record => ?_)
  exact h.record index record hrelated

/-- **Two builds give the same tree** once a change leaves nothing of what differs
between them. -/
theorem mapEach_callNode (h : Blind change style style' Related) {id id' : String}
    {depth depth' : Nat} (hrelated : Related (id, depth) (id', depth')) (frame : Frame) :
    (callNode style id depth frame).mapEach change =
      (callNode style' id' depth' frame).mapEach change := by
  induction frame using Frame.callInduction generalizing id id' depth depth' with
  | step frame ih =>
      have hcalls := map_mapEach_callNodes h hrelated 0 fun call hmem _ _ _ _ => ih call hmem
      have hresult := congrArg Option.toList (map_mapEach_resultNode? h hrelated frame)
      have hrecords := map_mapEach_logNodes h hrelated frame.logs
      rw [Option.toList_map, Option.toList_map] at hresult
      refine Node.mapEach_congr (h.call frame hrelated) ?_
      rw [children_callNode, children_callNode, List.map_append, List.map_append, List.map_append,
        List.map_append, hcalls, hresult, hrecords]

/-! ## Changes that leave ids or colours out of sight -/

/-- Without ids nothing shows where a tree was built. -/
theorem blind_withoutId (style : Style) :
    Blind Node.withoutId style style fun _ _ => True where
  below _ _ := trivial
  call frame _ := by
    cases frame
    rw [callNode, callNode]
    rfl
  reason _ _ _ := rfl
  output _ _ := rfl
  record _ _ _ := rfl

/-- Without colours nothing shows in which style a tree was built. -/
theorem blind_withoutColours (style style' : Style) :
    Blind Node.withoutColours style style' (· = ·) where
  below _ h := by
    cases h
    rfl
  call frame h := by
    cases h
    cases frame
    rw [callNode, callNode]
    rfl
  reason _ _ h := by
    cases h
    rfl
  output _ h := by
    cases h
    rfl
  record _ _ h := by
    cases h
    rfl

/-- Without either nothing shows of both. -/
theorem blind_withoutBoth (style style' : Style) :
    Blind (fun node => node.withoutId.withoutColours) style style' fun _ _ => True where
  below _ _ := trivial
  call frame _ := by
    cases frame
    rw [callNode, callNode]
    rfl
  reason _ _ _ := rfl
  output _ _ := rfl
  record _ _ _ := rfl

/-- **Place and style do not interfere with what a tree says.**  Of two trees of
one call, built at any places and in any styles, only ids and colours differ; in
one style only ids do, and at one place only colours. -/
theorem place_and_style_do_not_interfere (frame : Frame) (style style' : Style)
    (index index' depth depth' : Nat) (parent parent' : String) :
    (ofCall style index depth parent frame).mapEach (fun node => node.withoutId.withoutColours) =
        (ofCall style' index' depth' parent' frame).mapEach
          (fun node => node.withoutId.withoutColours) ∧
      (ofCall style index depth parent frame).mapEach Node.withoutId =
        (ofCall style index' depth' parent' frame).mapEach Node.withoutId ∧
      (ofCall style index depth parent frame).mapEach Node.withoutColours =
        (ofCall style' index depth parent frame).mapEach Node.withoutColours := by
  refine ⟨?_, ?_, ?_⟩
  · exact mapEach_callNode (blind_withoutBoth style style') trivial frame
  · exact mapEach_callNode (blind_withoutId style) trivial frame
  · exact mapEach_callNode (blind_withoutColours style style') rfl frame

end CallTree.Tree
