import CallTree.Settings.Yaml.Node

/-!
# Settings written in YAML

A text of settings is cut into tokens, the tokens make up a node, and the node
has to be a mapping.  A NUL ends the text.

* `Yaml.read` — the fields that a text writes.
-/

namespace CallTree.Settings.Yaml

/-- A text with one kind of line break. -/
def unifyBreaks : List Char → List Char
  | [] => []
  | '\r' :: '\n' :: rest => '\n' :: unifyBreaks rest
  | '\r' :: rest => '\n' :: unifyBreaks rest
  | c :: rest => c :: unifyBreaks rest

/-- The settings that a text writes: the fields of a mapping, none where the
text holds nothing. -/
def read (origin text : String) : Option (List (String × Setting)) := do
  let content := unifyBreaks (text.toList.takeWhile (· != '\x00'))
  let node ← Node.ofTokens? (← Token.ofText? content)
  match ← node.setting? origin with
  | .table fields _ => some fields
  | _ => none

end CallTree.Settings.Yaml
