import CallTree.Json.Printer
import CallTree.Text.Quoted

/-!
# Values of the wrong shape

Where a value has to be of one shape and is of another, the message names
both.  A record may also be written as the list of its parts; a list that is
too long is an error of its own.
-/

namespace CallTree

/-- What a reader asked for. -/
inductive Shape where
  | text
  | list
  | object
  | frame
  | logEntry
  | style
deriving DecidableEq

/-- How messages name a shape. -/
def Shape.name : Shape → String
  | .text => "a string"
  | .list => "a sequence"
  | .object => "a map"
  | .frame => "struct RawCallTrace"
  | .logEntry => "struct RawLogEntry"
  | .style => "struct NodeStyle"

/-- A value that is not of the shape asked for. -/
inductive ShapeError where
  /-- The value found, in place of one of the shape. -/
  | mismatch (found : Json) (expected : Shape)
  /-- A record written as a list with more items than it has parts. -/
  | tooLong (length : Nat)

namespace ShapeError

/-- How messages name the value found. -/
def foundName : Json → String
  | .null => "null"
  | .bool true => "boolean `true`"
  | .bool false => "boolean `false`"
  | .num (.int i) => "integer `" ++ String.ofList (Json.intText i) ++ "`"
  | .num (.float d) =>
      "floating point `" ++ String.ofList (d.text Double.Layout.json) ++ "`"
  | .str s => "string " ++ Text.quoted s
  | .arr _ => "sequence"
  | .obj _ => "map"

/-- The message of a wrong shape. -/
def message : ShapeError → String
  | .mismatch found expected =>
      "invalid type: " ++ foundName found ++ ", expected " ++ expected.name
  | .tooLong length =>
      "invalid length " ++ length.repr ++ ", expected fewer elements in array"

end ShapeError

namespace Json

/-- The text of a value that has to be a string. -/
def asText : Json → Except ShapeError String
  | .str s => .ok s
  | other => .error (.mismatch other .text)

/-- The items of a value that has to be an array. -/
def asItems : Json → Except ShapeError (List Json)
  | .arr items => .ok items
  | other => .error (.mismatch other .list)

/-- The fields of a value that has to be an object. -/
def asFields : Json → Except ShapeError (List (String × Json))
  | .obj fields => .ok fields
  | other => .error (.mismatch other .object)

/-- The texts of a value that has to be an array of strings. -/
def asTexts (j : Json) : Except ShapeError (List String) := do
  (← j.asItems).mapM asText

end Json

end CallTree
