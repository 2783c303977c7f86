import CallTree.Proofs.Tree.Children

/-!
# Flags and colours

A node says how a call ended by two flags and by its outline, and that a call
created a contract by a third flag and by its fill.  Calls, results and records
are put together apart, so each of them has to get its colours from its flags:
the outline of all but records from the success, the fill from the creation.

* `Agrees` — the flags and colours of a node fit together;
* `agrees_callNode`, `agrees_resultNode?`, `agrees_logNode` — those of the nodes of
  each kind do;
* `flags_and_colours_agree` — so do those of all nodes of a tree.
-/

namespace CallTree.Tree

/-- The flags and colours of a node fit together. -/
structure Agrees (style : Style) (node : Node) : Prop where
  /-- The node of a record has an outline of its own, and shows nothing but a
  text. -/
  record : node.isLog = true →
    node.stroke = style.logStroke ∧
      (node.success = false ∧ node.revert = false ∧ node.created = false) ∧
      node.value = 0 ∧ node.inputs = none ∧ node.children = []
  revert : node.isLog = false → node.revert = !node.success
  stroke : node.isLog = false →
    node.stroke = if node.success then style.success else style.fail
  fill : node.fill = if node.created then style.create else style.defaultFill
  /-- A creation shows neither inputs nor result. -/
  creation : node.created = true →
    node.inputs = none ∧
      ∀ child ∈ node.children, ¬ "-error".toList <:+ child.id.toList ∧
        ¬ "-output".toList <:+ child.id.toList

variable {style : Style}

/-! ## Nodes that are no creations -/

/-- The node of a failure or of an output agrees with the style, as it is none of
a creation. -/
theorem agrees_resultNode? {id : String} {call : Frame} {node : Node}
    (h : resultNode? style id call = some node) : Agrees style node := by
  rcases resultNode?_forms style id call with
    ⟨reason, more, _, _, _, hresult⟩ | ⟨first, more, _, _, _, hresult⟩ |
    ⟨s, _, _, _, _, hresult⟩ | ⟨_, _, hresult⟩
  case inr.inr.inr =>
    rw [hresult] at h
    cases h
  all_goals
    rw [hresult] at h
    cases h
    exact ⟨nofun, fun _ => rfl, fun _ => rfl, rfl, nofun⟩

theorem agrees_logNode (style : Style) (id : String) (index : Nat) (record : Log.Record) :
    Agrees style (logNode style id index record) :=
  ⟨fun _ => ⟨rfl, ⟨rfl, rfl, rfl⟩, rfl, rfl, rfl⟩, nofun, nofun, rfl, nofun⟩

/-! ## Nodes of calls -/

/-- The id of a record ends with a digit. -/
theorem NodeId.endsWithDigit_record (style : Style) (id : String) (index : Nat)
    (record : Log.Record) : EndsWithDigit (logNode style id index record).id :=
  endsWithDigit_append_repr (id ++ "-log-") index

/-- Below a creation stand only calls and records, so all ids there end with
digits. -/
theorem endsWithDigit_of_creation {id : String} {depth : Nat} {call : Frame} {child : Node}
    (hcreated : call.created = true) (hmem : child ∈ (callNode style id depth call).children) :
    NodeId.EndsWithDigit child.id := by
  have hresult : resultNode? style id call = none := if_pos hcreated
  rw [children_callNode, hresult, Option.toList_none, List.append_nil, List.mem_append] at hmem
  rcases hmem with hcall | hrecord
  · obtain ⟨index, hindex⟩ := List.getElem?_of_mem hcall
    rw [getElem?_callNodes] at hindex
    obtain ⟨inner, _, rfl⟩ := Option.map_eq_some_iff.mp hindex
    rw [id_callNode]
    exact NodeId.endsWithDigit_call _ id _
  · obtain ⟨index, _, rfl⟩ := List.mem_mapIdx.mp hrecord
    exact NodeId.endsWithDigit_record style id index _

/-- The flags of a call's node are those of the call, and its colours follow from
them. -/
theorem agrees_callNode (id : String) (depth : Nat) (call : Frame) :
    Agrees style (callNode style id depth call) := by
  have hshows : Shows (callNode style id depth call) call := shows_callNode id depth call
  have hcreated : (callNode style id depth call).created = call.created := hshows.created
  constructor
  case record =>
    rw [isLog_callNode]
    nofun
  case revert =>
    intro _
    rw [hshows.revert, hshows.success]
  case stroke =>
    intro _
    cases call
    rw [callNode]
  case fill =>
    cases call
    rw [callNode]
  case creation =>
    intro h
    rw [hcreated] at h
    refine ⟨hshows.noInputs (Or.inl h), fun child hmem => ?_⟩
    have hdigit := endsWithDigit_of_creation h hmem
    exact ⟨hdigit.not_suffix rfl rfl, hdigit.not_suffix rfl rfl⟩

/-- **The flags and colours of all nodes of a tree agree**, whatever the style. -/
theorem flags_and_colours_agree (style : Style) (entry : Frame) (rest : List Frame) :
    ∃ tree, ofFrames style (entry :: rest) = some tree ∧
      ∀ node ∈ tree.walk, Agrees style node := by
  refine ⟨callNode style NodeId.root 0 entry, rfl, fun node hmem => ?_⟩
  obtain ⟨path, call, _, hbelongs⟩ := mem_walk_callNode hmem
  cases hbelongs with
  | call => exact agrees_callNode _ _ call
  | result hresult => exact agrees_resultNode? hresult
  | record index record _ => exact agrees_logNode style _ index record

end CallTree.Tree
