import CallTree.Text.Digits
import CallTree.Text.Segments

/-!
# Ids of call nodes

The id of a call says where the call stands: its depth, the id of the call
that made it, and its place among the calls of that one.  The first call has
the id `0`.

* `NodeId.call` — the id of a call;
* `NodeId.deeper` — the depth of the calls that a call made;
* `NodeId.split?` — the parts of an id.
-/

namespace CallTree.Tree.NodeId

/-- The id of the first call. -/
def root : String := "0"

/-- The id of a call. -/
def call (depth : Nat) (parent : String) (index : Nat) : String :=
  depth.repr ++ "-" ++ parent ++ "-" ++ index.repr

/-- The depth below a depth.  Depths have 64 bits, and zero follows the last
one. -/
def deeper (depth : Nat) : Nat :=
  (depth + 1) % Nat.pow 2 64

/-- The parts of an id: what stands before the first dash, between the dashes,
and after the last one. -/
def parts (id : List Char) : Option (List Char × List Char × List Char) := do
  let (depth, rest) ← Text.splitFirst '-' id
  let (parent, index) ← Text.splitLast '-' rest
  pure (depth, parent, index)

/-- The depth, the parent's id and the index that an id says. -/
def split? (id : String) : Option (Nat × String × Nat) :=
  if id = root then some (0, "", 0)
  else do
    let (depth, parent, index) ← parts id.toList
    let depth ← Text.readNatural depth
    let index ← Text.readNatural index
    pure (depth, String.ofList parent, index)

end CallTree.Tree.NodeId
