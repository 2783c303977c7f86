import CallTree.CommandLine.Arguments
import CallTree.CommandLine.Help
import CallTree.History
import CallTree.Runner.Client
import CallTree.Settings.Source
import CallTree.Tree.Build

/-!
# Runs of the program

A run is a function: from the arguments, the environment, the files and what
the runner replies, to the exit code, the output, the changed files and the
requests made.  What a failed run did to the files before it failed stays
done.

* `perform` — one command with given settings;
* `run` — a whole run.
-/

namespace CallTree.CommandLine

/-- The files, and the requests made so far. -/
structure World where
  files : Files
  sent : List Runner.Request

/-- A step of a run: it may fail, and it may change the files and make
requests. -/
abbrev Action (α : Type) := World → Except Failure α × World

namespace Action

variable {α β : Type}

/-- A step that does nothing but give a result. -/
def result (a : α) : Action α := fun world => (.ok a, world)

/-- A step that fails. -/
def fail (f : Failure) : Action α := fun world => (.error f, world)

/-- A step that fails where a result is missing. -/
def lift (e : Except Failure α) : Action α := fun world => (e, world)

/-- A step, and another one after it if it succeeds. -/
def bind (first : Action α) (next : α → Action β) : Action β := fun world =>
  match first world with
  | (.ok a, world) => next a world
  | (.error f, world) => (.error f, world)

instance : Monad Action where
  pure := result
  bind := bind

/-- A step that looks at the files. -/
def look (read : Files → Except Failure α) : Action α := fun world =>
  (read world.files, world)

/-- A step that changes the files, even where it fails. -/
def change (write : Files → Except Failure Unit × Files) : Action Unit := fun world =>
  let (result, files) := write world.files
  (result, { world with files })

/-- A step that writes a file. -/
def writeFile (path text : String) : Action Unit :=
  change fun files =>
    match files.write path text with
    | .ok files => (.ok (), files)
    | .error e => (.error (.plain e.message), files)

/-- A call of the runner. -/
def call (session : Runner.Session α) : Action α := fun world =>
  match session world.sent with
  | (.ok a, sent) => (.ok a, { world with sent })
  | (.error e, sent) => (.error e.failure, { world with sent })

end Action

/-- What a run knows from the beginning. -/
structure Setup where
  settings : Settings
  output : Option String
  service : Runner.Service

/-- A text as a line of output. -/
def lineOf (s : String) : String := s ++ "\n"

/-- Puts a tree out: into the file that was asked for, or as output. -/
def emit (setup : Setup) (tree : Tree.Node) : Action String :=
  let text := tree.toJson.indented
  match setup.output with
  | some path => do
      Action.writeFile path text
      return ""
  | none => return lineOf text

/-- Shows the tree of a trace. -/
def showTrace (setup : Setup) (trace : Json) : Action String := do
  let tree ← Action.lift
    ((Tree.ofTrace setup.settings.style trace).mapError Tree.BuildError.failure)
  emit setup tree

/-- The tests of a catalog, each below the label of its source. -/
def catalogText (c : Runner.Catalog) : String :=
  if c.isEmpty then ""
  else
    String.join (c.sources.map fun source =>
      lineOf source.label ++
        String.join ((c.testsFor source.full).map fun test => lineOf ("  " ++ test)))

/-- The client of a run. -/
def clientOf (setup : Setup) : Action Runner.Client :=
  Action.lift (Runner.Client.create setup.settings.runner.url setup.settings.runner.testerIsEoa
    setup.settings.retry.maxAttempts)

/-- Keeps runs in the history file. -/
def keep (setup : Setup) (runs : List Runner.Run) : Action Unit := do
  let history ← Action.look fun files => History.load files setup.settings.historyPath
  Action.change (history.recordAll runs).save

/-- The JSON value in a file. -/
def readTrace (files : Files) (path : String) : Except Failure Json :=
  match files.read path with
  | .error e => .error (.plain e.message)
  | .ok text => (Json.read text).mapError fun e => .plain e.message

/-- Does one command, and gives its output. -/
def perform (setup : Setup) : Command → Action String
  | .render path => do
      let trace ← Action.look fun files => readTrace files path
      showTrace setup trace
  | .tests => do
      let client ← clientOf setup
      let catalog ← Action.call (client.listTests setup.service)
      return catalogText catalog
  | .run src test => do
      let client ← clientOf setup
      let catalog ← Action.call (client.listTests setup.service)
      let ref ← Action.lift ((catalog.resolve src test).mapError fun e => .plain e.message)
      let runs ← Action.call (client.runTest setup.service ref)
      keep setup runs
      match runs.getLast? with
      | some last => showTrace setup last.trace
      | none => Action.fail (.plain "Runner returned no runs")
  | .compile srcDir load =>
      match srcDir.or setup.settings.srcDir with
      | none => Action.fail (.plain "No source directory given and none configured")
      | some dir => do
          let client ← clientOf setup
          let catalog ← Action.call
            (if load then client.loadCompiled setup.service dir
              else client.compile setup.service dir)
          return catalogText catalog
  | .simulate hash => do
      let client ← clientOf setup
      let run ← Action.call (client.simulate setup.service hash)
      keep setup [run]
      showTrace setup run.trace
  | .history label => do
      let history ← Action.look fun files => History.load files setup.settings.historyPath
      match label with
      | some label => do
          let trace ← Action.lift (history.get label)
          showTrace setup trace
      | none => return String.join (history.labels.map lineOf)

/-- What a run leaves behind. -/
structure Outcome where
  code : Nat
  output : String
  /-- The report of a failure, empty where there is none. -/
  report : String
  files : Files
  sent : List Runner.Request

/-- A run of the program. -/
def run (arguments : List String) (environment : List (String × String)) (files : Files)
    (service : Runner.Service) : Outcome :=
  match Invocation.ofArguments arguments with
  | .misuse => ⟨2, "", "", files, []⟩
  | .help command => ⟨0, helpText command, "", files, []⟩
  | .version => ⟨0, versionText, "", files, []⟩
  | .perform options command =>
      match Settings.load files options.configPath environment with
      | .error e => ⟨1, "", e.failure.report, files, []⟩
      | .ok settings =>
          match perform ⟨settings, options.output, service⟩ command ⟨files, []⟩ with
          | (.ok output, world) => ⟨0, output, "", world.files, world.sent⟩
          | (.error f, world) => ⟨1, "", f.report, world.files, world.sent⟩

end CallTree.CommandLine
