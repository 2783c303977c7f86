import CallTree.Json.Basic

/-!
# Display nodes

A display tree has a node for every call, for the result of a call where it
has one to show, and for every debug record.

* `Node.walk` — all nodes, parents before their children;
* `Node.toJson` — the tree as JSON; the inputs, the children and the log mark
  are written only where there are any.
-/

namespace CallTree.Tree

/-- A node of the display tree. -/
structure Node where
  id : String
  name : String
  function : String
  value : Nat
  success : Bool
  revert : Bool
  created : Bool
  stroke : String
  fill : String
  inputs : Option (List String)
  children : List Node
  /-- Whether the node shows a debug record. -/
  isLog : Bool
deriving Inhabited

namespace Node

mutual

/-- All nodes of a tree, parents before their children. -/
def walk : Node → List Node
  | node@⟨_, _, _, _, _, _, _, _, _, _, children, _⟩ => node :: walkAll children

/-- All nodes of a list of trees. -/
def walkAll : List Node → List Node
  | [] => []
  | node :: nodes => walk node ++ walkAll nodes

end

/-- The fields that every node has. -/
def ownFields (node : Node) : List (String × Json) :=
  [("id", .str node.id), ("name", .str node.name), ("function", .str node.function),
    ("value", Json.ofInt node.value), ("success", .bool node.success),
    ("revert", .bool node.revert), ("created", .bool node.created),
    ("stroke", .str node.stroke), ("fill", .str node.fill)]

/-- The field of the inputs, where there are any. -/
def inputFields (node : Node) : List (String × Json) :=
  match node.inputs with
  | some inputs => [("inputs", .arr (inputs.map Json.str))]
  | none => []

/-- The field of the log mark, where it is set. -/
def logFields (node : Node) : List (String × Json) :=
  if node.isLog then [("log", .bool true)] else []

mutual

/-- A tree as JSON. -/
def toJson : Node → Json
  | node@⟨_, _, _, _, _, _, _, _, _, _, children, _⟩ =>
      .obj (node.ownFields ++ node.inputFields ++
        (match children with
          | [] => []
          | child :: rest => [("children", .arr (toJson child :: toJsonAll rest))]) ++
        node.logFields)

/-- A list of trees as JSON values. -/
def toJsonAll : List Node → List Json
  | [] => []
  | node :: nodes => toJson node :: toJsonAll nodes

end

end Node

end CallTree.Tree
