import CallTree.Failure
import CallTree.Log.Entry

/-!
# Call frames

A call frame is one call of a contract: what was called, with which data, how
it ended, which calls it made and what it logged.  Runners differ in what they
write, so every part may be missing or of a wrong type and then counts as
empty; only a frame that is no record at all is refused.

A frame is an object, or a list of its parts in the order of `partNames`.

* `Frame.ofJson` — one frame;
* `Frame.traceOfJson` — the frames of a whole trace.
-/

namespace CallTree

/-- One call of a contract. -/
structure Frame where
  name : String
  function : String
  address : String
  created : Bool
  success : Bool
  cost : Nat
  inputs : CallData
  output : CallData
  inner : List Frame
  logs : List Log.Entry
deriving Inhabited

namespace Frame

/-- The parts of a frame, in the order in which a list writes them. -/
def partNames : List String :=
  ["name", "function", "address", "created", "success", "cost", "inputs", "output", "inner",
    "logs"]

/-- The place of the calls that a frame made among its parts. -/
def innerPlace : Nat := 8

/-- The logs that a part writes; a list with a malformed entry counts as
empty. -/
def logsOf (part : Option Json) : List Log.Entry :=
  match part with
  | some j =>
      match Log.Entry.listOfJson j with
      | .ok entries => entries
      | .error _ => []
  | none => []

/-- The frame with the given parts and the given calls. -/
def ofParts (part : String → Option Json) (inner : List Frame) : Frame where
  name := ((part "name").bind Json.text?).getD ""
  function := ((part "function").bind Json.text?).getD ""
  address := ((part "address").bind Json.text?).getD ""
  created := ((part "created").bind Json.bool?).getD false
  success := ((part "success").bind Json.bool?).getD false
  cost := ((part "cost").bind Json.nat?).getD 0
  inputs := ((part "inputs").map CallData.ofJson).getD .empty
  output := ((part "output").map CallData.ofJson).getD .empty
  inner := inner
  logs := logsOf (part "logs")

mutual

/-- The frame that a JSON value writes. -/
def ofJson : Json → Except ShapeError Frame
  | .obj fields => .ok (ofParts (fun key => fields.lookup key) (innerUnder fields))
  | .arr items =>
      if items.length ≤ partNames.length then
        .ok (ofParts (fun key => (partNames.zip items).lookup key) (innerAt innerPlace items))
      else .error (.tooLong items.length)
  | .null => .error (.mismatch .null .frame)
  | .bool b => .error (.mismatch (.bool b) .frame)
  | .num n => .error (.mismatch (.num n) .frame)
  | .str s => .error (.mismatch (.str s) .frame)

/-- The calls under the key for them. -/
def innerUnder : List (String × Json) → List Frame
  | [] => []
  | (key, value) :: rest => if key = "inner" then calls value else innerUnder rest

/-- The calls at a place in a list. -/
def innerAt : Nat → List Json → List Frame
  | _, [] => []
  | 0, item :: _ => calls item
  | place + 1, _ :: rest => innerAt place rest

/-- The calls that a part writes; a list with a malformed frame counts as
empty. -/
def calls : Json → List Frame
  | .arr items =>
      match listOfItems items with
      | .ok frames => frames
      | .error _ => []
  | _ => []

/-- The frames that JSON values write. -/
def listOfItems : List Json → Except ShapeError (List Frame)
  | [] => .ok []
  | item :: items =>
      match ofJson item with
      | .ok frame =>
          match listOfItems items with
          | .ok frames => .ok (frame :: frames)
          | .error e => .error e
      | .error e => .error e

end

end Frame

/-- A value that is no trace. -/
inductive TraceError where
  /-- A malformed frame in a list of frames. -/
  | frames (e : ShapeError)
  /-- A malformed frame on its own. -/
  | frame (e : ShapeError)
  /-- A value that is neither a list nor an object. -/
  | noTrace (value : Json)

/-- A value that is no trace, as a failure. -/
def TraceError.failure : TraceError → Failure
  | .frames e => .because "failed to parse call frames" e.message
  | .frame e => .because "failed to parse call frame" e.message
  | .noTrace value => .plain ("Expected a trace array or object, got " ++ value.compact)

namespace Frame

mutual

/-- The frames of a trace: a list of frames, a single frame, or an object that
holds a trace under `trace`. -/
def traceOfJson : Json → Except TraceError (List Frame)
  | .arr items => (listOfItems items).mapError .frames
  | .obj fields => traceUnder fields (.obj fields)
  | .null => .error (.noTrace .null)
  | .bool b => .error (.noTrace (.bool b))
  | .num n => .error (.noTrace (.num n))
  | .str s => .error (.noTrace (.str s))

/-- The trace under the key for it; without that key the whole object is one
frame. -/
def traceUnder : List (String × Json) → Json → Except TraceError (List Frame)
  | [], whole => ((ofJson whole).map fun frame => [frame]).mapError .frame
  | (key, value) :: rest, whole =>
      if key = "trace" then traceOfJson value else traceUnder rest whole

end

end Frame

end CallTree
