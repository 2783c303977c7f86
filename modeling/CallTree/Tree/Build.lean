import CallTree.Frame
import CallTree.Log.Grouping
import CallTree.Tree.Node
import CallTree.Tree.NodeId
import CallTree.Tree.Style

/-!
# The display tree of a call

Every frame becomes a node.  Its children are the calls it made, then the
result if there is one to show, then its debug records; a creation shows
neither inputs nor result.

* `callNode` — the tree of one frame;
* `ofTrace` — the tree of a trace, which is that of its first frame.
-/

namespace CallTree.Tree

/-- How many characters of a text result are shown. -/
def maxResultLength : Nat := 100

/-- A text, cut where it is too long to be shown. -/
def cut (s : String) : String :=
  if s.length > maxResultLength then String.ofList (s.toList.take maxResultLength) ++ ".."
  else s

/-- What a call node shows as the inputs of a call. -/
def inputsOf (frame : Frame) : Option (List String) :=
  if frame.created then none
  else
    match frame.inputs.tokens?, frame.inputs.text? with
    | some tokens, _ => some (Token.displayFlat tokens)
    | none, some text => some [text]
    | none, none => none

/-- The node of the reason why a call failed. -/
def errorNode (style : Style) (id : String) (cost : Nat) (reason : Token) : Node where
  id := id ++ "-error"
  name := "Revert"
  function := "Reason: \"" ++ reason.display ++ "\""
  value := cost
  success := false
  revert := true
  created := false
  stroke := style.fail
  fill := style.defaultFill
  inputs := none
  children := []
  isLog := false

/-- The node of what a call gave back. -/
def outputNode (style : Style) (id : String) (text : String) : Node where
  id := id ++ "-output"
  name := "Output"
  function := text
  value := 0
  success := true
  revert := false
  created := false
  stroke := style.success
  fill := style.defaultFill
  inputs := none
  children := []
  isLog := false

/-- The node of the result of a call: why it failed, or what it gave back. -/
def resultNode? (style : Style) (id : String) (frame : Frame) : Option Node :=
  if frame.created then none
  else if frame.success then
    match frame.output.tokens?, frame.output.text? with
    | some tokens, _ => some (outputNode style id (", ".intercalate (Token.displayFlat tokens)))
    | none, some text => some (outputNode style id (cut text))
    | none, none => none
  else
    match frame.output.tokens? with
    | some (reason :: _) => some (errorNode style id frame.cost reason)
    | _ => none

/-- The name that a debug record is shown under. -/
def recordName (record : Log.Record) : String :=
  match record.grouped, record.name with
  | true, some name => if name = "" then "Log" else name
  | _, _ => "Log"

/-- The node of a debug record. -/
def logNode (style : Style) (id : String) (index : Nat) (record : Log.Record) : Node where
  id := id ++ "-log-" ++ index.repr
  name := recordName record
  function := record.describe
  value := 0
  success := false
  revert := false
  created := false
  stroke := style.logStroke
  fill := style.defaultFill
  inputs := none
  children := []
  isLog := true

/-- The nodes of the debug records of a call. -/
def logNodes (style : Style) (id : String) (entries : List Log.Entry) : List Node :=
  (Log.records entries).mapIdx (logNode style id)

mutual

/-- The tree of a frame, with the given id at its root. -/
def callNode (style : Style) (id : String) (depth : Nat) : Frame → Node
  | frame@⟨name, function, address, created, success, cost, _, _, inner, logs⟩ =>
      { id
        name := if name = "" then address else name
        function
        value := cost
        success
        revert := !success
        created
        stroke := if success then style.success else style.fail
        fill := if created then style.create else style.defaultFill
        inputs := inputsOf frame
        children := callNodes style id (NodeId.deeper depth) 0 inner ++
          (resultNode? style id frame).toList ++ logNodes style id logs
        isLog := false }

/-- The trees of the calls that the call with the id `parent` made. -/
def callNodes (style : Style) (parent : String) (depth index : Nat) : List Frame → List Node
  | [] => []
  | frame :: frames =>
      callNode style (NodeId.call depth parent index) depth frame ::
        callNodes style parent depth (index + 1) frames

end

/-- The tree of a call that stands at the given place below another one. -/
def ofCall (style : Style) (index depth : Nat) (parent : String) (frame : Frame) : Node :=
  callNode style (NodeId.call depth parent index) depth frame

/-- The tree of a trace, where it has a frame. -/
def ofFrames (style : Style) (frames : List Frame) : Option Node :=
  frames.head?.map (callNode style NodeId.root 0)

/-- A trace without a tree. -/
inductive BuildError where
  | trace (e : TraceError)
  | noFrames

/-- A trace without a tree, as a failure. -/
def BuildError.failure : BuildError → Failure
  | .trace e => e.failure
  | .noFrames => .plain "Trace contains no call frames"

/-- The tree of a trace. -/
def ofTrace (style : Style) (trace : Json) : Except BuildError Node :=
  match Frame.traceOfJson trace with
  | .ok frames =>
      match ofFrames style frames with
      | some node => .ok node
      | none => .error .noFrames
  | .error e => .error (.trace e)

end CallTree.Tree
