import CallTree.Failure
import CallTree.Settings.Value
import CallTree.Tree.Style

/-!
# Settings

The settings of the program, each with a value of its own where nothing is
asked for.  A section of the tree is a table, or the list of its parts in
order.

* `Settings.ofTree` — the settings that a tree of settings asks for.
-/

namespace CallTree

namespace Settings

/-- How the runner is reached. -/
structure RunnerSettings where
  url : String
  testerIsEoa : Bool
  timeoutSecs : Nat
deriving DecidableEq

/-- How often requests are made again, and how soon. -/
structure RetrySettings where
  maxAttempts : Nat
  baseDelayMs : Nat
  maxDelayMs : Nat
deriving DecidableEq

/-- How the runner is reached where nothing is asked for. -/
def RunnerSettings.default : RunnerSettings := ⟨"http://localhost:2347", true, 120⟩

/-- How often requests are made again where nothing is asked for. -/
def RetrySettings.default : RetrySettings := ⟨3, 500, 10000⟩

end Settings

/-- All settings. -/
structure Settings where
  runner : Settings.RunnerSettings
  retry : Settings.RetrySettings
  historyPath? : Option String
  srcDir : Option String
  style : Tree.Style
deriving DecidableEq

namespace Settings

/-- The settings where nothing is asked for. -/
def default : Settings :=
  ⟨RunnerSettings.default, RetrySettings.default, none, none, Tree.Style.default⟩

instance : Inhabited Settings := ⟨default⟩

/-- The file of the history. -/
def historyPath (s : Settings) : String :=
  s.historyPath?.getD "trace_history.json"

/-- A part of a section, and the key that messages give it. -/
abbrev Part := Option (String × Setting)

/-- The parts of a section: by name in a table, by place in a list. -/
def partsOf (key typeName : String) (names : List String) :
    Option Setting → Except SettingsError (String → Part)
  | none => .ok fun _ => none
  | some (.table fields _) =>
      .ok fun name => (fields.lookup name).map fun value => (key ++ "." ++ name, value)
  | some (.list items _) =>
      .ok fun name =>
        (items[names.idxOf name]?).map fun value =>
          (key ++ "[" ++ (names.idxOf name).repr ++ "]", value)
  | some (.scalar value origin) =>
      .error (.wrongType (Setting.scalar value origin).describe ("struct " ++ typeName) key none)

/-- The value of a part, or another one where the part is missing. -/
def partOr {α : Type} (part : Part) (other : α)
    (convert : String → Setting → Except SettingsError α) : Except SettingsError α :=
  match part with
  | some (key, value) => convert key value
  | none => .ok other

/-- The settings of the runner in a section. -/
def RunnerSettings.ofSection (value : Option Setting) : Except SettingsError RunnerSettings := do
  let part ← partsOf "runner" "RunnerConfig" ["url", "tester_is_eoa", "timeout_secs"] value
  return {
    url := ← partOr (part "url") default.url Setting.toText
    testerIsEoa := ← partOr (part "tester_is_eoa") default.testerIsEoa Setting.toBool
    timeoutSecs := ← partOr (part "timeout_secs") default.timeoutSecs Setting.toNatural }

/-- The settings of repeated requests in a section. -/
def RetrySettings.ofSection (value : Option Setting) : Except SettingsError RetrySettings := do
  let part ←
    partsOf "retry" "RetrySettings" ["max_attempts", "base_delay_ms", "max_delay_ms"] value
  return {
    maxAttempts := ← partOr (part "max_attempts") default.maxAttempts Setting.toSmallNatural
    baseDelayMs := ← partOr (part "base_delay_ms") default.baseDelayMs Setting.toNatural
    maxDelayMs := ← partOr (part "max_delay_ms") default.maxDelayMs Setting.toNatural }

/-- The colours in a section. -/
def styleOfSection (value : Option Setting) : Except SettingsError Tree.Style := do
  let other := Tree.Style.default
  let part ← partsOf "style" "NodeStyle" Tree.Style.partNames value
  return {
    success := ← partOr (part "success") other.success Setting.toText
    fail := ← partOr (part "fail") other.fail Setting.toText
    create := ← partOr (part "create") other.create Setting.toText
    defaultFill := ← partOr (part "default_fill") other.defaultFill Setting.toText
    logStroke := ← partOr (part "log_stroke") other.logStroke Setting.toText }

/-- A text without the slashes at its end; endpoints are put behind it. -/
def trimSlashes (s : String) : String :=
  String.ofList (s.toList.reverse.dropWhile (· == '/')).reverse

/-- The settings that a tree of settings asks for. -/
def ofTree (tree : Setting) : Except SettingsError Settings := do
  let field := fun (name : String) => tree.fields.lookup name
  let optional := fun (name : String) => partOr ((field name).map (name, ·)) none
    Setting.toOptionalText
  let runner ← RunnerSettings.ofSection (field "runner")
  return {
    runner := { runner with url := trimSlashes runner.url }
    retry := ← RetrySettings.ofSection (field "retry")
    historyPath? := ← optional "history_path"
    srcDir := ← optional "src_dir"
    style := ← styleOfSection (field "style") }

end Settings

/-- Settings that cannot be used, as a failure. -/
def SettingsError.failure : SettingsError → Failure
  | .unreadable => .plain "failed to read config"
  | .wrongType found expected key origin =>
      .because "failed to parse config" (detail found expected key origin)

end CallTree
