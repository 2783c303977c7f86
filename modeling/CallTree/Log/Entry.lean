import CallTree.Json.Shape
import CallTree.Token.Basic

/-!
# Log entries

Every log that a call emits is an object with an event, a name and a payload.
The payload is `Parsed` where the runner knew the event, and `NotParsed`
otherwise; some runners write the arguments next to the payload instead of
inside it.

* `Entry.field` — an argument by name, the payload first;
* `Entry.firstValue` — the argument that a header carries, which has no name.
-/

namespace CallTree

namespace Log

/-- The payload of a log entry. -/
inductive Payload where
  /-- Arguments by name. -/
  | parsed (fields : KeyMap Token)
  /-- A log whose event the runner did not know. -/
  | notParsed (value : Json)
deriving Inhabited

/-- One emitted log. -/
structure Entry where
  event : String
  name : String
  log : Option Payload
  /-- The arguments next to the payload. -/
  fields : KeyMap Token
deriving Inhabited

/-- Named tokens, by name. -/
def tokenMap (fields : List (String × Json)) : KeyMap Token :=
  KeyMap.ofList (fields.map fun field => (field.1, Token.ofJson field.2))

/-- The payload that a JSON value writes; `null` is none at all. -/
def Payload.ofJson : Json → Option Payload
  | .null => none
  | .obj fields =>
      match fields.lookup "Parsed", fields.lookup "NotParsed" with
      | some (.obj arguments), _ => some (.parsed (tokenMap arguments))
      | some _, _ => some (.parsed KeyMap.empty)
      | none, some raw => some (.notParsed raw)
      | none, none => some (.notParsed (.obj fields))
  | other => some (.notParsed other)

namespace Entry

/-- The keys with a meaning of their own; every other key is an argument. -/
def ownKeys : List String := ["event", "name", "log"]

/-- The text under a key, empty where there is none. -/
def textUnder (key : String) (fields : List (String × Json)) : String :=
  ((fields.lookup key).bind Json.text?).getD ""

/-- The entry with the given fields. -/
def ofFields (fields : List (String × Json)) : Entry where
  event := textUnder "event" fields
  name := textUnder "name" fields
  log := (fields.lookup "log").bind Payload.ofJson
  fields := tokenMap (fields.filter fun field => !ownKeys.contains field.1)

/-- The entry that a JSON value writes. -/
def ofJson : Json → Except ShapeError Entry
  | .obj fields => .ok (ofFields fields)
  | other => .error (.mismatch other .logEntry)

/-- The entries that a JSON value writes. -/
def listOfJson (j : Json) : Except ShapeError (List Entry) := do
  (← j.asItems).mapM ofJson

/-- The arguments inside the payload. -/
def parsed? (e : Entry) : Option (KeyMap Token) :=
  match e.log with
  | some (.parsed arguments) => some arguments
  | _ => none

/-- The argument of a name; one inside the payload counts before one next to
it. -/
def field (e : Entry) (name : String) : Option Token :=
  match (e.parsed?).bind fun arguments => arguments.get? name with
  | some token => some token
  | none => e.fields.get? name

/-- The argument without a name, or else the first one by name. -/
def firstValue (e : Entry) : Option Token :=
  match e.field "" with
  | some token => some token
  | none =>
      match e.parsed? with
      | some arguments => arguments.values.head?
      | none => e.fields.values.head?

end Entry

end Log

end CallTree
