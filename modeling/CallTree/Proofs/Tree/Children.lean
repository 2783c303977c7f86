import CallTree.Proofs.Tree.Calls
import CallTree.Proofs.Tree.Position
import Mathlib.Algebra.GroupWithZero.Nat

/-!
# What stands below the node of a call

Below the node of a call stand the calls that it made, at most one result, and
its records.  A failed call shows the reason of its failure and a successful one
what it gave back, where there is any; a creation shows neither.  Results and
records have nothing below them, so a tree has for every call one node for the
call, one for each of its records, and one more if the call has a result.

* `GivesReason`, `GivesOutput` — which calls have a result to show;
* `resultOf_resultNode?`, `recordsOf_logNodes` — what results and records show;
* `childrenOf_callNode` — the children of a call's node;
* `length_walk_callNode` — how many nodes the tree of a call has;
* `children_as_called` — the children of all nodes of the tree of a trace.
-/

namespace CallTree

namespace CallData

theorem isSome_tokens?_iff (data : CallData) :
    data.tokens?.isSome = true ↔ ∃ first more, data = .tokens (first :: more) := by
  rcases data with (_ | ⟨first, more⟩) | s | _
  · simp [tokens?]
  · simp [tokens?]
  · simp [tokens?]
  · simp [tokens?]

theorem isSome_text?_iff (data : CallData) :
    data.text?.isSome = true ↔ ∃ s, data = .text s ∧ s ≠ "" := by
  rcases data with items | s | _
  · simp [text?]
  · by_cases h : s = ""
    · simp [text?, h]
    · simp [text?, h]
  · simp [text?]

end CallData

namespace Tree

/-- Whether a call failed with a reason that its node has to show. -/
def GivesReason (call : Frame) : Prop :=
  call.created = false ∧ call.success = false ∧
    ∃ reason more, call.output = .tokens (reason :: more)

/-- Whether a call succeeded with an output that its node has to show. -/
def GivesOutput (call : Frame) : Prop :=
  call.created = false ∧ call.success = true ∧
    ((∃ first more, call.output = .tokens (first :: more)) ∨ ∃ s, call.output = .text s ∧ s ≠ "")

instance (call : Frame) : Decidable (GivesReason call) :=
  decidable_of_iff
    (call.created = false ∧ call.success = false ∧ call.output.tokens?.isSome = true)
    (by rw [CallData.isSome_tokens?_iff, GivesReason])

instance (call : Frame) : Decidable (GivesOutput call) :=
  decidable_of_iff
    (call.created = false ∧ call.success = true ∧
      (call.output.tokens?.isSome = true ∨ call.output.text?.isSome = true))
    (by rw [CallData.isSome_tokens?_iff, CallData.isSome_text?_iff, GivesOutput])

/-- What the node of the result of a call shows, where the call has the given
id. -/
structure ResultOf (id : String) (call : Frame) (result : Option Node) : Prop where
  failure : (∃ child, result = some child ∧ child.id = id ++ "-error") ↔ GivesReason call
  output : (∃ child, result = some child ∧ child.id = id ++ "-output") ↔ GivesOutput call
  /-- A result is a failure or an output, and has nothing below it. -/
  either : ∀ child, result = some child →
    (child.id = id ++ "-error" ∨ child.id = id ++ "-output") ∧
      child.isSynthetic = true ∧ child.children = []
  /-- A failure shows its reason, and costs what the call cost. -/
  reason : ∀ child reason more, result = some child → call.success = false →
    call.output = .tokens (reason :: more) →
      child.function = "Reason: \"" ++ reason.display ++ "\"" ∧ child.value = call.cost
  tokens : ∀ child items, result = some child → call.success = true →
    call.output = .tokens items → child.function = ", ".intercalate (Token.displayFlat items)
  /-- A long text is cut. -/
  text : ∀ child s, result = some child → call.output = .text s →
    child.function = if s.length ≤ 100 then s else String.ofList (s.toList.take 100) ++ ".."

/-- What the nodes of the records of a call show, where the call has the given
id. -/
structure RecordsOf (id : String) (records : List Log.Record) (nodes : List Node) : Prop where
  length : nodes.length = records.length
  each : ∀ (index : Nat) (record : Log.Record), records[index]? = some record →
    ∃ child, nodes[index]? = some child ∧ child.id = id ++ "-log-" ++ index.repr ∧
      child.isLog = true ∧ child.function = record.describe ∧ child.children = []

/-- The children of the node of a call: the calls that it made, its result, and
its records. -/
structure ChildrenOf (node : Node) (call : Frame) (calls : List Node) (result : Option Node)
    (records : List Node) : Prop where
  children : node.children = calls ++ result.toList ++ records
  calls : List.Forall₂ (fun child inner => child.isSynthetic = false ∧ Shows child inner) calls
    call.inner
  result : ResultOf node.id call result
  records : RecordsOf node.id (Log.records call.logs) records

/-- How many nodes a call has in a tree, those of the calls that it made left
out. -/
def ownNodes (call : Frame) : Nat :=
  1 + (if GivesReason call ∨ GivesOutput call then 1 else 0) + (Log.records call.logs).length

variable {style : Style}

/-! ## Results and records -/

/-- The node of a failure and that of an output never have the same id. -/
theorem error_ne_output (id : String) : id ++ "-error" ≠ id ++ "-output" := by
  intro h
  have hsuffix : "-error" = "-output" := (String.append_right_inj id).mp h
  exact absurd hsuffix (by decide)

/-- A result that is there is shown by one node, which is that of a failure or of
an output. -/
theorem resultNode?_forms (style : Style) (id : String) (call : Frame) :
    (∃ reason more, call.created = false ∧ call.success = false ∧
      call.output = .tokens (reason :: more) ∧
      resultNode? style id call = some (errorNode style id call.cost reason)) ∨
    (∃ first more, call.created = false ∧ call.success = true ∧
      call.output = .tokens (first :: more) ∧
      resultNode? style id call =
        some (outputNode style id (", ".intercalate (Token.displayFlat (first :: more))))) ∨
    (∃ s, call.created = false ∧ call.success = true ∧ call.output = .text s ∧ s ≠ "" ∧
      resultNode? style id call = some (outputNode style id (cut s))) ∨
    (¬ GivesReason call ∧ ¬ GivesOutput call ∧ resultNode? style id call = none) := by
  obtain ⟨name, function, address, created, success, cost, inputs, output, inner, logs⟩ := call
  cases created with
  | true => simp [resultNode?, GivesReason, GivesOutput]
  | false =>
      cases success with
      | false =>
          rcases output with (_ | ⟨reason, more⟩) | s | _
          · simp [resultNode?, GivesReason, GivesOutput, CallData.tokens?]
          · exact Or.inl ⟨reason, more, rfl, rfl, rfl, rfl⟩
          · simp [resultNode?, GivesReason, GivesOutput, CallData.tokens?]
          · simp [resultNode?, GivesReason, GivesOutput, CallData.tokens?]
      | true =>
          rcases output with (_ | ⟨first, more⟩) | s | _
          · simp [resultNode?, GivesReason, GivesOutput, CallData.tokens?, CallData.text?]
          · exact Or.inr (Or.inl ⟨first, more, rfl, rfl, rfl, rfl⟩)
          · by_cases h : s = ""
            · simp [resultNode?, GivesReason, GivesOutput, CallData.tokens?, CallData.text?, h]
            · simp [resultNode?, GivesReason, GivesOutput, CallData.tokens?, CallData.text?, h]
          · simp [resultNode?, GivesReason, GivesOutput, CallData.tokens?, CallData.text?]

/-- A text is cut where it has more than a hundred characters. -/
theorem cut_eq (s : String) :
    cut s = if s.length ≤ 100 then s else String.ofList (s.toList.take 100) ++ ".." := by
  unfold cut maxResultLength
  by_cases h : s.length ≤ 100
  · rw [if_neg (by omega), if_pos h]
  · rw [if_pos (by omega), if_neg h]

/-- The node of a failure shows the reason. -/
theorem resultOf_errorNode (id : String) {call : Frame} {reason : Token} {more : List Token}
    (hcreated : call.created = false) (hsuccess : call.success = false)
    (houtput : call.output = .tokens (reason :: more))
    (hresult : resultNode? style id call = some (errorNode style id call.cost reason)) :
    ResultOf id call (some (errorNode style id call.cost reason)) := by
  have hreason : GivesReason call := ⟨hcreated, hsuccess, reason, more, houtput⟩
  constructor
  case failure => exact ⟨fun _ => hreason, fun _ => ⟨_, rfl, rfl⟩⟩
  case output =>
    constructor
    · rintro ⟨child, ⟨⟩, hid⟩
      exact absurd hid (error_ne_output id)
    · rintro ⟨_, hsucceeded, _⟩
      rw [hsuccess] at hsucceeded
      cases hsucceeded
  case either =>
    rintro child ⟨⟩
    exact ⟨Or.inl rfl, isSynthetic_of_resultNode? hresult, rfl⟩
  case reason =>
    rintro child first later ⟨⟩ _ htokens
    rw [houtput] at htokens
    cases htokens
    exact ⟨rfl, rfl⟩
  case tokens =>
    intro child items _ hsucceeded _
    rw [hsuccess] at hsucceeded
    cases hsucceeded
  case text =>
    intro child s _ htext
    rw [houtput] at htext
    cases htext

/-- The node of an output shows what the call gave back. -/
theorem resultOf_outputNode (id : String) {call : Frame} {label : String}
    (hgives : GivesOutput call)
    (htokens : ∀ items, call.output = .tokens items →
      label = ", ".intercalate (Token.displayFlat items))
    (htext : ∀ s, call.output = .text s → label = cut s)
    (hresult : resultNode? style id call = some (outputNode style id label)) :
    ResultOf id call (some (outputNode style id label)) := by
  have hsuccess : call.success = true := hgives.2.1
  constructor
  case failure =>
    constructor
    · rintro ⟨child, ⟨⟩, hid⟩
      exact absurd hid.symm (error_ne_output id)
    · rintro ⟨_, hfailed, _⟩
      rw [hsuccess] at hfailed
      cases hfailed
  case output => exact ⟨fun _ => hgives, fun _ => ⟨_, rfl, rfl⟩⟩
  case either =>
    rintro child ⟨⟩
    exact ⟨Or.inr rfl, isSynthetic_of_resultNode? hresult, rfl⟩
  case reason =>
    intro child reason more _ hfailed _
    rw [hsuccess] at hfailed
    cases hfailed
  case tokens =>
    rintro child items ⟨⟩ _ houtput
    exact htokens items houtput
  case text =>
    rintro child s ⟨⟩ houtput
    rw [← cut_eq]
    exact htext s houtput

/-- A call that asks for no result has none. -/
theorem resultOf_none (id : String) {call : Frame} (hreason : ¬ GivesReason call)
    (hgives : ¬ GivesOutput call) : ResultOf id call none := by
  constructor
  case failure =>
    constructor
    · rintro ⟨child, ⟨⟩, _⟩
    · exact fun h => absurd h hreason
  case output =>
    constructor
    · rintro ⟨child, ⟨⟩, _⟩
    · exact fun h => absurd h hgives
  all_goals
    intros
    contradiction

/-- **The result of a call is what the call asks for.** -/
theorem resultOf_resultNode? (id : String) (call : Frame) :
    ResultOf id call (resultNode? style id call) := by
  rcases resultNode?_forms style id call with
    ⟨reason, more, hcreated, hsuccess, houtput, hresult⟩ |
    ⟨first, more, hcreated, hsuccess, houtput, hresult⟩ |
    ⟨s, hcreated, hsuccess, houtput, htext, hresult⟩ | ⟨hreason, hgives, hresult⟩
  · rw [hresult]
    exact resultOf_errorNode id hcreated hsuccess houtput hresult
  · have hgives : GivesOutput call := ⟨hcreated, hsuccess, Or.inl ⟨first, more, houtput⟩⟩
    rw [hresult]
    refine resultOf_outputNode id hgives ?_ ?_ hresult
    · intro items hitems
      rw [houtput] at hitems
      cases hitems
      rfl
    · intro s hs
      rw [houtput] at hs
      cases hs
  · have hgives : GivesOutput call := ⟨hcreated, hsuccess, Or.inr ⟨s, houtput, htext⟩⟩
    rw [hresult]
    refine resultOf_outputNode id hgives ?_ ?_ hresult
    · intro items hitems
      rw [houtput] at hitems
      cases hitems
    · intro s' hs
      rw [houtput] at hs
      cases hs
      rfl
  · rw [hresult]
    exact resultOf_none id hreason hgives

/-- **Every record of a call has its node**, and they are numbered from zero. -/
theorem recordsOf_logNodes (id : String) (entries : List Log.Entry) :
    RecordsOf id (Log.records entries) (logNodes style id entries) := by
  constructor
  case length => rw [logNodes, List.length_mapIdx]
  case each =>
    intro index record hrecord
    refine ⟨logNode style id index record, ?_, rfl, rfl, rfl, rfl⟩
    rw [logNodes, List.getElem?_mapIdx, hrecord]
    rfl

/-! ## The children of a call's node -/

theorem forall₂_callNodes (parent : String) (depth first : Nat) (frames : List Frame) :
    List.Forall₂ (fun child inner => child.isSynthetic = false ∧ Shows child inner)
      (callNodes style parent depth first frames) frames := by
  induction frames generalizing first with
  | nil => exact List.Forall₂.nil
  | cons frame frames ih =>
      have hid := NodeId.endsWithDigit_call depth parent first
      rw [callNodes]
      exact List.Forall₂.cons ⟨isSynthetic_callNode hid depth frame, shows_callNode _ depth frame⟩
        (ih (first + 1))

/-- **The children of a call's node** are the calls that the call made, its result
and its records. -/
theorem childrenOf_callNode (id : String) (depth : Nat) (call : Frame) :
    ChildrenOf (callNode style id depth call) call
      (callNodes style id (NodeId.deeper depth) 0 call.inner) (resultNode? style id call)
      (logNodes style id call.logs) := by
  constructor
  case children => exact children_callNode style id depth call
  case calls => exact forall₂_callNodes id (NodeId.deeper depth) 0 call.inner
  case result =>
    rw [id_callNode]
    exact resultOf_resultNode? id call
  case records =>
    rw [id_callNode]
    exact recordsOf_logNodes id call.logs

/-- The id of every call of a trace ends with a digit. -/
theorem NodeId.endsWithDigit_below (depth : Nat) {id : String} (h : EndsWithDigit id)
    (path : List Nat) : EndsWithDigit (below depth id path) := by
  induction path generalizing depth id with
  | nil => exact h
  | cons index path ih => exact ih _ (endsWithDigit_call _ id index)

/-- What a walk over the tree of a trace meets is the node of a call, or has
nothing below it. -/
theorem isCallNode_or_leaf {entry : Frame} {node : Node}
    (h : node ∈ (callNode style NodeId.root 0 entry).walk) :
    (node.isSynthetic = false ∧ IsCallNode entry (callNode style NodeId.root 0 entry) node) ∨
      (node.isSynthetic = true ∧ node.children = []) := by
  obtain ⟨path, call, hcall, hbelongs⟩ := mem_walk_callNode h
  cases hbelongs with
  | call =>
      have hid := NodeId.endsWithDigit_below 0 NodeId.endsWithDigit_root path
      exact Or.inl ⟨isSynthetic_callNode hid _ call, path, call, hcall, at?_callNode _ _ hcall⟩
  | result hresult =>
      have hleaf := (resultNode?_cases style _ call hresult).2.1
      exact Or.inr ⟨isSynthetic_of_resultNode? hresult, hleaf⟩
  | record index record hrecord => exact Or.inr ⟨rfl, rfl⟩

/-! ## How many nodes there are -/

/-- A call has one node for its result, or none. -/
theorem length_resultNode? (style : Style) (id : String) (call : Frame) :
    (resultNode? style id call).toList.length =
      if GivesReason call ∨ GivesOutput call then 1 else 0 := by
  rcases resultNode?_forms style id call with
    ⟨reason, more, hcreated, hsuccess, houtput, hresult⟩ |
    ⟨first, more, hcreated, hsuccess, houtput, hresult⟩ |
    ⟨s, hcreated, hsuccess, houtput, htext, hresult⟩ | ⟨hreason, hgives, hresult⟩
  · have hreason : GivesReason call := ⟨hcreated, hsuccess, reason, more, houtput⟩
    rw [hresult, if_pos (Or.inl hreason)]
    rfl
  · have hgives : GivesOutput call := ⟨hcreated, hsuccess, Or.inl ⟨first, more, houtput⟩⟩
    rw [hresult, if_pos (Or.inr hgives)]
    rfl
  · have hgives : GivesOutput call := ⟨hcreated, hsuccess, Or.inr ⟨s, houtput, htext⟩⟩
    rw [hresult, if_pos (Or.inr hgives)]
    rfl
  · rw [hresult, if_neg (not_or.mpr ⟨hreason, hgives⟩)]
    rfl

theorem length_walkAll_callNodes (parent : String) (depth first : Nat) {frames : List Frame}
    (h : ∀ frame ∈ frames, ∀ (id : String) (depth : Nat),
      (callNode style id depth frame).walk.length = (frame.preorder.map ownNodes).sum) :
    (Node.walkAll (callNodes style parent depth first frames)).length =
      ((Frame.preorderAll frames).map ownNodes).sum := by
  induction frames generalizing first with
  | nil => rfl
  | cons frame frames ih =>
      have hrest := ih (first + 1) fun frame hmem => h frame (List.mem_cons_of_mem _ hmem)
      have hfirst := h frame List.mem_cons_self (NodeId.call depth parent first) depth
      rw [callNodes, Node.walkAll, List.length_append, hfirst, hrest, Frame.preorderAll,
        List.map_append, List.sum_append]

/-- **A tree has as many nodes as its calls have together.** -/
theorem length_walk_callNode (id : String) (depth : Nat) (call : Frame) :
    (callNode style id depth call).walk.length = (call.preorder.map ownNodes).sum := by
  induction call using Frame.callInduction generalizing id depth with
  | step call ih =>
      have hcalls := length_walkAll_callNodes id (NodeId.deeper depth) 0 ih
      have hresult := length_resultNode? style id call
      have hrecords : (logNodes style id call.logs).length = (Log.records call.logs).length :=
        (recordsOf_logNodes id call.logs).length
      rw [walk_callNode, List.length_cons, List.length_append, List.length_append, hcalls, hresult,
        hrecords, Frame.preorder_eq, List.map_cons, List.sum_cons, ownNodes]
      omega

/-! ## The written tree -/

namespace Node

theorem toJsonAll_eq_map (nodes : List Node) : toJsonAll nodes = nodes.map toJson := by
  induction nodes with
  | nil => rfl
  | cons node nodes ih => rw [toJsonAll, ih, List.map_cons]

/-- **A written node has a list of children only where there are any.** -/
theorem get?_children_toJson (node : Node) :
    (node.children = [] → node.toJson.get? "children" = none) ∧
      (node.children ≠ [] →
        node.toJson.get? "children" = some (.arr (node.children.map toJson))) := by
  have hinputs : node.inputFields.lookup "children" = none := by
    unfold inputFields
    split
    · rfl
    · rfl
  have hlog : node.logFields.lookup "children" = none := by
    unfold logFields
    split
    · rfl
    · rfl
  obtain ⟨id, name, function, value, success, revert, created, stroke, fill, inputs, children,
    isLog⟩ := node
  constructor
  · rintro rfl
    rw [toJson, Json.get?]
    simp only [List.lookup_append, hinputs, hlog]
    rfl
  · intro hne
    obtain ⟨child, rest, rfl⟩ := List.exists_cons_of_ne_nil hne
    rw [toJson, Json.get?, toJsonAll_eq_map]
    simp only [List.lookup_append, hinputs]
    rfl

end Node

/-- **Results and records are exactly those that the calls ask for.**  In the tree
of a trace the node of every call has below it the calls that the call made, its
result where it has one to show, and its records.  Results and records have
nothing below them, a list of children that is written is not empty, and the tree
has as many nodes as its calls have together. -/
theorem children_as_called (style : Style) (entry : Frame) (rest : List Frame) :
    ∃ tree, ofFrames style (entry :: rest) = some tree ∧
      (∀ path call, entry.call? path = some call →
        ∃ node calls result records, tree.at? path = some node ∧ Shows node call ∧
          ChildrenOf node call calls result records) ∧
      (∀ node ∈ tree.walk,
        (node.isSynthetic = false ∧ IsCallNode entry tree node) ∨
          (node.isSynthetic = true ∧ node.children = [])) ∧
      (∀ node ∈ tree.walk,
        (node.children = [] → node.toJson.get? "children" = none) ∧
          (node.children ≠ [] →
            node.toJson.get? "children" = some (.arr (node.children.map Node.toJson)))) ∧
      tree.walk.length = (entry.preorder.map ownNodes).sum := by
  refine ⟨callNode style NodeId.root 0 entry, rfl, ?_, ?_, ?_, ?_⟩
  · intro path call hcall
    exact ⟨_, _, _, _, at?_callNode 0 NodeId.root hcall, shows_callNode _ _ call,
      childrenOf_callNode _ _ call⟩
  · intro node hmem
    exact isCallNode_or_leaf hmem
  · intro node _
    exact node.get?_children_toJson
  · exact length_walk_callNode NodeId.root 0 entry

end Tree

end CallTree
