import CallTree.Proofs.Tree.Shape
import Mathlib.Data.List.Forall2

/-!
# The calls of a display tree

A display tree shows more than calls: results and records have nodes of their
own among the children of a call.  Their ids and the log mark give them away,
because the id of a call always ends with a digit.  Without them the tree has
the shape of the calls themselves, and a walk meets the calls in the order in
which they began.

* `Node.isSynthetic` — whether a node shows a result or a record;
* `Shows` — what the node of a call says of the call;
* `mirrors_callNode` — without synthetic nodes, the tree of a call has the shape
  of the call;
* `shows_walk_callNode` — a walk meets the calls in pre-order;
* `tree_mirrors_calls` — the tree of a trace is that of its first call.
-/

namespace CallTree

namespace Frame

mutual

/-- A call and all calls below it, each before those that it made. -/
def preorder : Frame → List Frame
  | frame@⟨_, _, _, _, _, _, _, _, inner, _⟩ => frame :: preorderAll inner

/-- Several calls and all calls below them. -/
def preorderAll : List Frame → List Frame
  | [] => []
  | frame :: frames => preorder frame ++ preorderAll frames

end

theorem preorder_eq (frame : Frame) : frame.preorder = frame :: preorderAll frame.inner := by
  cases frame
  rw [preorder]

end Frame

namespace Tree

/-- Whether an id ends with a digit, as the ids of calls do. -/
def NodeId.EndsWithDigit (id : String) : Prop :=
  ∃ c, id.toList.getLast? = some c ∧ c.isDigit = true

/-- The id of the first call ends with a digit. -/
theorem NodeId.endsWithDigit_root : EndsWithDigit root :=
  ⟨'0', rfl, rfl⟩

/-- What ends with a number ends with a digit. -/
theorem NodeId.endsWithDigit_append_repr (front : String) (n : Nat) :
    EndsWithDigit (front ++ n.repr) := by
  have hne : Nat.toDigits 10 n ≠ [] := Nat.toDigits_ne_nil
  refine ⟨(Nat.toDigits 10 n).getLast hne, ?_,
    Nat.isDigit_of_mem_toDigits (by decide) (by decide) (List.getLast_mem hne)⟩
  have hlast : (Nat.toDigits 10 n).getLast? = some ((Nat.toDigits 10 n).getLast hne) :=
    List.getLast?_eq_some_getLast hne
  rw [String.toList_append, Nat.toList_repr, List.getLast?_append, hlast, Option.some_or]

/-- The id of a call below another one ends with a digit. -/
theorem NodeId.endsWithDigit_call (depth : Nat) (parent : String) (index : Nat) :
    EndsWithDigit (call depth parent index) :=
  endsWithDigit_append_repr (depth.repr ++ "-" ++ parent ++ "-") index

/-- What ends with a digit does not end with a word. -/
theorem NodeId.EndsWithDigit.not_suffix {id : String} (h : EndsWithDigit id) {word : List Char}
    {last : Char} (hword : word.getLast? = some last) (hletter : last.isDigit = false) :
    ¬ word <:+ id.toList := by
  rintro ⟨front, hfront⟩
  obtain ⟨c, hlast, hdigit⟩ := h
  rw [← hfront, List.getLast?_append, hword, Option.some_or] at hlast
  rw [Option.some.inj hlast, hdigit] at hletter
  cases hletter

namespace Node

/-- Whether a node shows a result or a record: its id says so, or the log
mark. -/
def isSynthetic (node : Node) : Bool :=
  node.isLog || "-error".toList.isSuffixOf node.id.toList ||
    "-output".toList.isSuffixOf node.id.toList

mutual

/-- The tree without the synthetic nodes below its root. -/
def callsOnly : Node → Node
  | node@⟨_, _, _, _, _, _, _, _, _, _, children, _⟩ =>
      { node with children := callsOnlyAll children }

/-- Trees without synthetic nodes, those at the roots included. -/
def callsOnlyAll : List Node → List Node
  | [] => []
  | node :: nodes =>
      if node.isSynthetic then callsOnlyAll nodes else callsOnly node :: callsOnlyAll nodes

end

theorem callsOnly_eq (node : Node) :
    node.callsOnly = { node with children := callsOnlyAll node.children } := by
  cases node
  rw [callsOnly]

theorem callsOnlyAll_append (nodes others : List Node) :
    callsOnlyAll (nodes ++ others) = callsOnlyAll nodes ++ callsOnlyAll others := by
  induction nodes with
  | nil => rfl
  | cons node nodes ih =>
      rw [List.cons_append, callsOnlyAll, callsOnlyAll, ih]
      split
      · rfl
      · rfl

/-- Of synthetic nodes nothing is left. -/
theorem callsOnlyAll_eq_nil {nodes : List Node} (h : ∀ node ∈ nodes, node.isSynthetic = true) :
    callsOnlyAll nodes = [] := by
  induction nodes with
  | nil => rfl
  | cons node nodes ih =>
      rw [callsOnlyAll, if_pos (h node List.mem_cons_self)]
      exact ih fun node hmem => h node (List.mem_cons_of_mem _ hmem)

/-- The nodes of a list that are not synthetic. -/
def calls (nodes : List Node) : List Node :=
  nodes.filter fun node => !node.isSynthetic

theorem calls_append (nodes others : List Node) :
    calls (nodes ++ others) = calls nodes ++ calls others :=
  List.filter_append nodes others

theorem calls_eq_nil {nodes : List Node} (h : ∀ node ∈ nodes, node.isSynthetic = true) :
    calls nodes = [] := by
  refine List.filter_eq_nil_iff.mpr fun node hmem => ?_
  rw [h node hmem]
  exact Bool.false_ne_true

/-- A node whose id ends with a digit is not synthetic, unless it shows a
record. -/
theorem isSynthetic_eq_false {node : Node} (hlog : node.isLog = false)
    (hid : NodeId.EndsWithDigit node.id) : node.isSynthetic = false := by
  have hsuffix {word : List Char} (last : Char) (hword : word.getLast? = some last)
      (hletter : last.isDigit = false) : word.isSuffixOf node.id.toList = false :=
    Bool.eq_false_iff.mpr fun h =>
      hid.not_suffix hword hletter (List.isSuffixOf_iff_suffix.mp h)
  rw [isSynthetic, hlog, hsuffix 'r' rfl rfl, hsuffix 't' rfl rfl]
  rfl

end Node

/-! ## Telling calls from the rest -/

variable {style : Style}

/-- What shows a result is synthetic. -/
theorem isSynthetic_of_resultNode? {id : String} {frame : Frame} {node : Node}
    (h : resultNode? style id frame = some node) : node.isSynthetic = true := by
  obtain ⟨_, _, hid | hid⟩ := resultNode?_cases style id frame h
  · simp [Node.isSynthetic, hid]
  · simp [Node.isSynthetic, hid]

/-- What shows a record is synthetic. -/
theorem isSynthetic_of_mem_logNodes {id : String} {entries : List Log.Entry} {node : Node}
    (h : node ∈ logNodes style id entries) : node.isSynthetic = true := by
  obtain ⟨index, _, rfl⟩ := List.mem_mapIdx.mp h
  rfl

/-- A call's node is not synthetic, where its id ends with a digit. -/
theorem isSynthetic_callNode {id : String} (hid : NodeId.EndsWithDigit id) (depth : Nat)
    (frame : Frame) : (callNode style id depth frame).isSynthetic = false := by
  refine Node.isSynthetic_eq_false (isLog_callNode style id depth frame) ?_
  rw [id_callNode]
  exact hid

/-! ## What is left -/

/-- What the node of a call says of the call. -/
structure Shows (node : Node) (call : Frame) : Prop where
  /-- A call without a name goes by its address. -/
  name : node.name = if call.name = "" then call.address else call.name
  function : node.function = call.function
  value : node.value = call.cost
  success : node.success = call.success
  revert : node.revert = !call.success
  created : node.created = call.created
  /-- A creation shows no inputs, and neither does a call that has none. -/
  noInputs : call.created = true ∨ call.inputs = .empty ∨ call.inputs = .tokens [] ∨
    call.inputs = .text "" → node.inputs = none
  /-- Tokens are shown one by one, a list-like token as its parts. -/
  tokens : ∀ items, call.created = false → call.inputs = .tokens items → items ≠ [] →
    node.inputs = some (items.flatMap fun item =>
      match item.items? with
      | some parts => parts.map Token.display
      | none => [item.display])
  text : ∀ s, call.created = false → call.inputs = .text s → s ≠ "" → node.inputs = some [s]

/-- A tree of nodes shows a call and all calls below it, those that one call made
in their order. -/
inductive Mirrors : Node → Frame → Prop
  | node {node : Node} {call : Frame} (shows : Shows node call)
      (children : List.Forall₂ Mirrors node.children call.inner) : Mirrors node call

/-- The inputs that a call's node shows. -/
theorem inputs_callNode (id : String) (depth : Nat) (frame : Frame) :
    (callNode style id depth frame).inputs = inputsOf frame := by
  cases frame
  rw [callNode]

/-- **The node of a call shows the call**, whatever its id. -/
theorem shows_callNode (id : String) (depth : Nat) (frame : Frame) :
    Shows (callNode style id depth frame) frame := by
  have hinputs : (callNode style id depth frame).inputs = inputsOf frame :=
    inputs_callNode id depth frame
  obtain ⟨name, function, address, created, success, cost, inputs, output, inner, logs⟩ := frame
  refine ⟨?name, ?function, ?value, ?success, ?revert, ?created, ?noInputs, ?tokens, ?text⟩
  case noInputs =>
    rintro (rfl | rfl | rfl | rfl)
    · rw [hinputs, inputsOf, if_pos rfl]
    all_goals
      rw [hinputs]
      cases created
      · rfl
      · rfl
  case tokens =>
    rintro items rfl rfl hne
    obtain ⟨first, rest, rfl⟩ := List.exists_cons_of_ne_nil hne
    rw [hinputs]
    simp only [inputsOf, CallData.tokens?, Token.displayFlat, Token.displayAll_eq_map]
    rfl
  case text =>
    rintro s rfl rfl hne
    rw [hinputs]
    simp [inputsOf, CallData.tokens?, CallData.text?, hne]
  all_goals rw [callNode]

/-- What a node says of its call does not depend on its children. -/
theorem Shows.callsOnly {node : Node} {call : Frame} (h : Shows node call) :
    Shows node.callsOnly call := by
  rw [Node.callsOnly_eq]
  exact ⟨h.name, h.function, h.value, h.success, h.revert, h.created, h.noInputs, h.tokens, h.text⟩

/-- Without synthetic nodes, the children of a call's node are the calls that
the call made. -/
theorem children_callsOnly_callNode (id : String) (depth : Nat) (frame : Frame) :
    (callNode style id depth frame).callsOnly.children =
      Node.callsOnlyAll (callNodes style id (NodeId.deeper depth) 0 frame.inner) := by
  have hresult : Node.callsOnlyAll (resultNode? style id frame).toList = [] :=
    Node.callsOnlyAll_eq_nil fun _ hmem => isSynthetic_of_resultNode? (Option.mem_toList.mp hmem)
  have hlogs : Node.callsOnlyAll (logNodes style id frame.logs) = [] :=
    Node.callsOnlyAll_eq_nil fun _ hmem => isSynthetic_of_mem_logNodes hmem
  rw [Node.callsOnly_eq, children_callNode, Node.callsOnlyAll_append, Node.callsOnlyAll_append,
    hresult, hlogs, List.append_nil, List.append_nil]

theorem mirrors_callNodes (parent : String) (depth first : Nat) {frames : List Frame}
    (h : ∀ frame ∈ frames, ∀ (id : String) (depth : Nat),
      Mirrors (callNode style id depth frame).callsOnly frame) :
    List.Forall₂ Mirrors (Node.callsOnlyAll (callNodes style parent depth first frames))
      frames := by
  induction frames generalizing first with
  | nil => exact List.Forall₂.nil
  | cons frame frames ih =>
      have hcall :
          (callNode style (NodeId.call depth parent first) depth frame).isSynthetic = false :=
        isSynthetic_callNode (NodeId.endsWithDigit_call depth parent first) depth frame
      rw [callNodes, Node.callsOnlyAll, hcall]
      exact List.Forall₂.cons (h frame List.mem_cons_self _ _)
        (ih (first + 1) fun frame hmem => h frame (List.mem_cons_of_mem _ hmem))

/-- **Without synthetic nodes, the tree of a call has the shape of the call.** -/
theorem mirrors_callNode (id : String) (depth : Nat) (frame : Frame) :
    Mirrors (callNode style id depth frame).callsOnly frame := by
  induction frame using Frame.callInduction generalizing id depth with
  | step frame ih =>
      refine Mirrors.node (shows_callNode id depth frame).callsOnly ?_
      rw [children_callsOnly_callNode]
      exact mirrors_callNodes id (NodeId.deeper depth) 0 ih

theorem shows_walkAll_callNodes (parent : String) (depth first : Nat) {frames : List Frame}
    (h : ∀ frame ∈ frames, ∀ {id : String}, NodeId.EndsWithDigit id → ∀ depth : Nat,
      List.Forall₂ Shows (Node.calls (callNode style id depth frame).walk) frame.preorder) :
    List.Forall₂ Shows (Node.calls (Node.walkAll (callNodes style parent depth first frames)))
      (Frame.preorderAll frames) := by
  induction frames generalizing first with
  | nil => exact List.Forall₂.nil
  | cons frame frames ih =>
      rw [callNodes, Node.walkAll, Node.calls_append, Frame.preorderAll]
      exact List.rel_append
        (h frame List.mem_cons_self (NodeId.endsWithDigit_call depth parent first) depth)
        (ih (first + 1) fun frame hmem => h frame (List.mem_cons_of_mem _ hmem))

/-- **A walk meets the calls in pre-order**, each once, where the id at the root
ends with a digit. -/
theorem shows_walk_callNode {id : String} (hid : NodeId.EndsWithDigit id) (depth : Nat)
    (frame : Frame) :
    List.Forall₂ Shows (Node.calls (callNode style id depth frame).walk) frame.preorder := by
  induction frame using Frame.callInduction generalizing id depth with
  | step frame ih =>
      have hroot : (callNode style id depth frame).isSynthetic = false :=
        isSynthetic_callNode hid depth frame
      have hresult : Node.calls (resultNode? style id frame).toList = [] :=
        Node.calls_eq_nil fun _ hmem => isSynthetic_of_resultNode? (Option.mem_toList.mp hmem)
      have hlogs : Node.calls (logNodes style id frame.logs) = [] :=
        Node.calls_eq_nil fun _ hmem => isSynthetic_of_mem_logNodes hmem
      have hwalk : Node.calls (callNode style id depth frame).walk =
          callNode style id depth frame ::
            Node.calls (Node.walkAll (callNodes style id (NodeId.deeper depth) 0 frame.inner)) := by
        rw [walk_callNode, Node.calls, List.filter_cons_of_pos (by rw [hroot]; rfl), ← Node.calls,
          Node.calls_append, Node.calls_append, hresult, hlogs, List.append_nil, List.append_nil]
      rw [hwalk, Frame.preorder_eq]
      exact List.Forall₂.cons (shows_callNode id depth frame)
        (shows_walkAll_callNodes id (NodeId.deeper depth) 0 fun call hmem _ hid depth =>
          ih call hmem hid depth)

/-- **A display tree is faithful to the calls.**  Without synthetic nodes the tree
of a trace has the shape of its first call, and a walk meets the nodes of the
calls below it in pre-order, each once, each saying what its call says.  Further
calls at the top of the trace make no difference. -/
theorem tree_mirrors_calls (style : Style) (entry : Frame) (rest : List Frame) :
    ∃ tree, ofFrames style (entry :: rest) = some tree ∧
      Mirrors tree.callsOnly entry ∧
      List.Forall₂ Shows (tree.walk.filter fun node => !node.isSynthetic) entry.preorder ∧
      ∀ others : List Frame, ofFrames style (entry :: others) = some tree := by
  refine ⟨callNode style NodeId.root 0 entry, rfl, ?_, ?_, fun _ => rfl⟩
  · exact mirrors_callNode NodeId.root 0 entry
  · exact shows_walk_callNode NodeId.endsWithDigit_root 0 entry

end Tree

end CallTree
