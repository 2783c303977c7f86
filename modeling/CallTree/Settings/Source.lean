import CallTree.Files.Basic
import CallTree.Json.Reader
import CallTree.Settings.Basic
import CallTree.Settings.Yaml

/-!
# Where settings come from

Settings come from a file, in YAML or in JSON, and from the variables of the
environment, which win.  A file that is not there asks for nothing.

* `Settings.load` — the settings of a run.
-/

namespace CallTree.Settings

/-- How a file of settings is written. -/
inductive Format where
  | yaml
  | json
deriving DecidableEq

/-- The formats by the endings of file names. -/
def formats : List (String × Format) :=
  [("json", .json), ("yaml", .yaml), ("yml", .yaml)]

/-- What a path has to be followed by an ending: a path whose name has an ending
of its own stays as it is, and a placeholder stands for the name behind a slash
at its end; of other paths what follows the name is left out. -/
def stemOf? (path : String) : Option String :=
  match Path.extension? path with
  | some _ => some (if path.endsWith "/" then path ++ ".placeholder" else path)
  | none => Path.named? path

/-- The file that a path means, with its format: the file itself if its ending
is known, or else, if it is not there, the path with an ending. -/
def findFile (files : Files) (path : String) : Option (String × Format) :=
  if files.hasFile path then
    ((Path.extension? path).bind fun ending => formats.lookup ending).map fun format =>
      (path, format)
  else
    (stemOf? path).bind fun name =>
      (formats.map fun (ending, format) => (name ++ "." ++ ending, format)).find? fun candidate =>
        files.hasFile candidate.1

mutual

/-- A JSON value as a setting. -/
def settingOfJson (origin : String) : Json → Setting
  | .null => .scalar .nil (some origin)
  | .bool b => .scalar (.bool b) (some origin)
  | .num (.int i) => .scalar (.int i) (some origin)
  | .num (.float d) => .scalar (.float d) (some origin)
  | .str s => .scalar (.text s) (some origin)
  | .arr items => .list (settingsOfItems origin items) (some origin)
  | .obj fields => .table (settingsOfFields origin fields) (some origin)

/-- A list of JSON values as settings. -/
def settingsOfItems (origin : String) : List Json → List Setting
  | [] => []
  | item :: items => settingOfJson origin item :: settingsOfItems origin items

/-- Fields of JSON values as fields of settings. -/
def settingsOfFields (origin : String) : List (String × Json) → List (String × Setting)
  | [] => []
  | (key, value) :: rest => (key, settingOfJson origin value) :: settingsOfFields origin rest

end

/-- The fields that a text of settings writes. -/
def readText (format : Format) (origin text : String) : Option (List (String × Setting)) :=
  match format with
  | .yaml => Yaml.read origin text
  | .json =>
      match Json.read text with
      | .ok (.obj fields) => some (settingsOfFields origin fields)
      | _ => none

/-- A text without the mark of its byte order. -/
def dropMark (text : String) : String :=
  match text.toList with
  | '\uFEFF' :: rest => String.ofList rest
  | _ => text

/-- The fields of the file that a path means. -/
def fileFields (files : Files) (path : String) :
    Except SettingsError (List (String × Setting)) :=
  match findFile files path with
  | none => .ok []
  | some (name, format) =>
      match (files.look name).bind File.lossyText? with
      | none => .ok []
      | some text =>
          match readText format (Path.tidy name) (dropMark text) with
          | some fields => .ok fields
          | none => .error .unreadable

/-- What the names of variables for settings begin with, in lower case. -/
def variableStart : String := "trace_viz__"

/-- What a text in the environment writes: a truth value, an integer, a
floating point number, or else itself. -/
def variableScalar (text : String) : Scalar :=
  let word := Text.lower text
  if word = "true" then .bool true
  else if word = "false" then .bool false
  else
    match readSigned 10 text.toList with
    | some i => .int i
    | none =>
        match readFloat text.toList with
        | some d => .float d
        | none => .text text

/-- A text in which a dot stands for every two underscores. -/
def dotted : List Char → List Char
  | '_' :: '_' :: rest => '.' :: dotted rest
  | c :: rest => c :: dotted rest
  | [] => []

/-- The field that a variable of the environment sets, if it is one for
settings. -/
def variableField (name value : String) : Option (String × Setting) :=
  (Text.stripStart variableStart.toList (Text.lower name).toList).map fun key =>
    (String.ofList (dotted key), .scalar (variableScalar value) (some "the environment"))

/-- A tree with further fields, whose keys may be paths. -/
def putFields (tree : Setting) (fields : List (String × Setting)) : Setting :=
  fields.foldl (fun tree field => Setting.put field.2 (Setting.pathOf field.1) tree) tree

/-- The settings of a run. -/
def load (files : Files) (path : String) (environment : List (String × String)) :
    Except SettingsError Settings := do
  let fields ← fileFields files path
  let given := environment.filterMap fun (name, value) => variableField name value
  ofTree (putFields (putFields (.table [] none) fields) given)

end CallTree.Settings
