import CallTree.Log.Entry
import CallTree.Log.Record
import CallTree.Token.Display

/-!
# Debug records out of log entries

Programs write a debug message as several log entries: a header with the name
and the event, then one entry for each field.  The entries are read once from
the left.  A header closes the record before it, so what stands before the
first header is a record as well; the list of results begins after it.

* `Role.ofEvent` — what an event means to the grouping;
* `Grouping.step` — one entry;
* `records` — the records of a list of entries.
-/

namespace CallTree.Log

/-- What an entry means to the grouping. -/
inductive Role where
  /-- An entry that only says that logs follow. -/
  | marker
  /-- The header of a record. -/
  | header
  /-- The header of a record that has neither name nor event. -/
  | bareHeader
  /-- A field; `asText` where its bytes are shown as text. -/
  | field (asText : Bool)
  /-- Any other event, a record by itself. -/
  | standalone
deriving DecidableEq

/-- The role of an event. -/
def Role.ofEvent (event : String) : Role :=
  if event = "logs" then .marker
  else if event = "log_bytes32" then .header
  else if event = "log_named" then .bareHeader
  else if event ∈ ["log_named_bytes32", "log_named_string"] then .field true
  else if event ∈ ["log_named_address", "log_named_bool", "log_named_decimal_int",
      "log_named_decimal_uint", "log_named_int", "log_named_uint"] then .field false
  else .standalone

/-- The text of an argument of an entry that is a record by itself. -/
def argumentText (name : String) (token : Token) : String :=
  if name = "key" then token.ascii?.getD token.display else token.display

/-- The texts of named arguments, in the order of their names. -/
def argumentTexts (arguments : KeyMap Token) : List (String × String) :=
  arguments.entries.map fun entry => (entry.1, argumentText entry.1 entry.2)

/-- The texts of what the payload of an entry says. -/
def payloadTexts : Option Payload → List (String × String)
  | some (.parsed arguments) => argumentTexts arguments
  | some (.notParsed (.obj fields)) => fields.map fun field => (field.1, field.2.bareText)
  | some (.notParsed raw) => [("raw", raw.bareText)]
  | none => []

/-- The record that one entry is by itself. -/
def Record.ofEntry (e : Entry) : Record :=
  (payloadTexts e.log ++ argumentTexts e.fields).foldl
    (fun record field => record.set field.1 field.2)
    (Record.opened e.name e.event)

/-- The record that a header opens. -/
def Record.ofHeader (e : Entry) : Record :=
  Record.opened e.name ((e.firstValue.map Token.label).getD "")

/-- The record that a header without name and event opens. -/
def Record.ofBareHeader (e : Entry) : Record :=
  match e.field "val" with
  | some value => Record.empty.set "named" value.display
  | none => Record.empty

/-- The key and the text of the field that an entry writes. -/
def fieldOf (asText : Bool) (e : Entry) : Option (String × String) :=
  match e.field "key", e.field "val" with
  | some key, some value =>
      some (String.ofList (key.label.toList.filter (· != ' ')),
        if asText then value.label else value.display)
  | _, _ => none

/-- The state of the grouping: the closed records and the open one. -/
structure Grouping where
  closed : List Record
  current : Record

namespace Grouping

/-- Nothing is closed, and the open record is empty. -/
def start : Grouping := ⟨[], Record.empty⟩

/-- Closes the open record and opens the next one. -/
def flush (g : Grouping) (next : Record) : Grouping :=
  ⟨g.closed ++ [{ g.current with grouped := true }], next⟩

/-- Takes one entry. -/
def step (g : Grouping) (e : Entry) : Grouping :=
  match Role.ofEvent e.event with
  | .marker => g
  | .header => g.flush (Record.ofHeader e)
  | .bareHeader => g.flush (Record.ofBareHeader e)
  | .field asText =>
      match fieldOf asText e with
      | some (key, value) => { g with current := g.current.set key value }
      | none => g
  | .standalone => { g with closed := g.closed ++ [Record.ofEntry e] }

/-- The records, after the last entry; an open record that holds anything is
closed. -/
def finish (g : Grouping) : List Record :=
  (if g.current.isEmpty then g else g.flush Record.empty).closed

end Grouping

/-- The records of a list of entries; the first one stands before the first
header and does not count. -/
def records (entries : List Entry) : List Record :=
  (entries.foldl Grouping.step Grouping.start).finish.tail

end CallTree.Log
