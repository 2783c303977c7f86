import CallTree.Failure
import CallTree.Files.Basic
import CallTree.Json.Reader
import CallTree.Runner.Response
import CallTree.Text.Blank

/-!
# The history of fetched traces

A history keeps the traces that a runner gave, each under the label of its
run, in one file of JSON.

* `History.load`, `History.save` — from and to the file;
* `History.record` — the trace of a run; a later run takes the place of an
  earlier one of the same label;
* `History.get` — the trace under a label.
-/

namespace CallTree

/-- The traces kept in a file. -/
structure History where
  path : String
  entries : KeyMap Json
deriving Inhabited

namespace History

/-- The label under which no trace is kept, as a failure. -/
def unknownLabel (label : String) : Failure :=
  .plain ("No trace recorded under label " ++ label)

/-- The entries that the text of a history file writes; a blank text writes
none. -/
def entriesOfText (text : String) : Except Json.ReadError (KeyMap Json) :=
  if (Text.trim text.toList).isEmpty then .ok KeyMap.empty
  else (Json.readObject text).map KeyMap.ofList

/-- Reads the history of a file; one that is not there is empty. -/
def load (files : Files) (path : String) : Except Failure History :=
  if files.has path then
    match files.read path with
    | .error e => .error (.because ("failed to read trace history " ++ path) e.message)
    | .ok text =>
        match entriesOfText text with
        | .error e => .error (.because ("failed to parse trace history " ++ path) e.message)
        | .ok entries => .ok ⟨path, entries⟩
  else .ok ⟨path, KeyMap.empty⟩

/-- Keeps the trace of a run under its label. -/
def record (h : History) (run : Runner.Run) : History :=
  { h with entries := h.entries.insert run.label run.trace }

/-- Keeps the traces of several runs, one after another. -/
def recordAll (h : History) (runs : List Runner.Run) : History :=
  runs.foldl record h

/-- The trace under a label. -/
def get (h : History) (label : String) : Except Failure Json :=
  match h.entries.get? label with
  | some trace => .ok trace
  | none => .error (unknownLabel label)

/-- All labels, in increasing order. -/
def labels (h : History) : List String := h.entries.keys

/-- How many traces are kept. -/
def size (h : History) : Nat := h.entries.size

/-- Whether no trace is kept. -/
def isEmpty (h : History) : Bool := h.entries.isEmpty

/-- The text of the history file. -/
def text (h : History) : String := (Json.obj h.entries.entries).indented

/-- Makes the directory that the history file is in. -/
def makeParent (h : History) (files : Files) : Except Failure Unit × Files :=
  match Path.parent? h.path with
  | none => (.ok (), files)
  | some "" => (.ok (), files)
  | some parent =>
      let (made, files) := files.makeDirs parent
      (made.mapError fun e => .because ("failed to create " ++ parent) e.message, files)

/-- Writes the history to its file.  Directories that were made for it stay even
if it cannot be written. -/
def save (h : History) (files : Files) : Except Failure Unit × Files :=
  match h.makeParent files with
  | (.error f, files) => (.error f, files)
  | (.ok (), files) =>
      match files.write h.path h.text with
      | .ok files => (.ok (), files)
      | .error e =>
          (.error (.because ("failed to write trace history " ++ h.path) e.message), files)

end History

end CallTree
