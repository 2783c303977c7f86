import CallTree.Proofs.CommandLine.Again
import CallTree.Proofs.Files.Places

/-!
# What a run does to the history file

Two commands ask the runner for runs and keep them in the history file; the others
only look at it, or not even that.  Between the first request and the result the
runner may turn out to be out of reach, to answer with something else, or not to
know the test, and then no file has been touched.  Once the runs are there, the
history is read, and where it cannot be read no file has been touched either.  Only
then is it saved, and what comes after that, showing the tree of a run, writes at
most the file of the output: it may fail, but the history stays.

* `runsOfTest`, `runsOfTransaction` — the runs that the runner returns, or the
  obstacle that it meets;
* `KeepsFiles`, `OnlyWrites` — what a step leaves as it is, closed under sequence;
* `Asked` — how a command ends that asks for runs, with one lemma for each kind of
  step;
* `history_changes_only_on_success` — the history file before and after a run.
-/

namespace CallTree.CommandLine

variable {α β ε : Type} {world : World}

/-! ## What the runner returns -/

/-- What may stand between a command and the runs that it asks for. -/
inductive Obstacle where
  /-- What should be the address of the runner is no address. -/
  | address (e : Failure)
  /-- A request that finally fails, or a response of the wrong form. -/
  | call (e : Runner.ClientError)
  /-- A source or a test that the runner does not know. -/
  | unknown (e : Runner.CatalogError)

/-- The client that the settings describe. -/
def clientFor (settings : Settings) : Except Obstacle Runner.Client :=
  (Runner.Client.create settings.runner.url settings.runner.testerIsEoa
    settings.retry.maxAttempts).mapError Obstacle.address

/-- The runs of a test that the runner returns. -/
def runsOfTest (settings : Settings) (service : Runner.Service) (src test : String) :
    Except Obstacle (List Runner.Run) := do
  let client ← clientFor settings
  let listed := client.listTests service []
  let catalog ← listed.1.mapError Obstacle.call
  let ref ← (catalog.resolve src test).mapError Obstacle.unknown
  (client.runTest service ref listed.2).1.mapError Obstacle.call

/-- The run of a transaction that the runner returns. -/
def runsOfTransaction (settings : Settings) (service : Runner.Service) (hash : String) :
    Except Obstacle (List Runner.Run) := do
  let client ← clientFor settings
  let run ← (client.simulate service hash []).1.mapError Obstacle.call
  pure [run]

/-- The runs that the runner returns, for the commands that ask for runs. -/
def returned? (settings : Settings) (service : Runner.Service) :
    Command → Option (Except Obstacle (List Runner.Run))
  | .run src test => some (runsOfTest settings service src test)
  | .simulate hash => some (runsOfTransaction settings service hash)
  | .render _ | .tests | .compile _ _ | .history _ => none

/-! ## Files that a step leaves as they are -/

namespace Action

/-- A step that changes no file. -/
def KeepsFiles (action : Action α) : Prop :=
  ∀ world, (action world).2.files = world.files

/-- A step that changes no file, or writes the one of the output. -/
def OnlyWrites (output : Option String) (action : Action α) : Prop :=
  ∀ world, (action world).2.files = world.files ∨
    ∃ path text, output = some path ∧ world.files.write path text = .ok (action world).2.files

theorem keepsFiles_lift (given : Except Failure α) : KeepsFiles (lift given) :=
  fun _ => rfl

theorem keepsFiles_look (read : Files → Except Failure α) : KeepsFiles (look read) :=
  fun _ => rfl

theorem keepsFiles_call (session : Runner.Session α) : KeepsFiles (call session) := by
  intro world
  unfold call
  split <;> rfl

variable {output : Option String}

theorem onlyWrites_pure (a : α) : OnlyWrites output (pure a : Action α) :=
  fun _ => .inl rfl

theorem onlyWrites_fail (f : Failure) : OnlyWrites output (fail f : Action α) :=
  fun _ => .inl rfl

/-- **A step that changes no file** adds nothing to what the next one writes. -/
theorem KeepsFiles.bind {first : Action α} {next : α → Action β} (h : first.KeepsFiles)
    (hnext : ∀ a, (next a).OnlyWrites output) : (first >>= next).OnlyWrites output := by
  intro world
  cases hfirst : first world with
  | mk given later =>
      have hfiles : later.files = world.files := by rw [← h world, hfirst]
      cases given with
      | error f =>
          rw [bind_of_error hfirst]
          exact .inl hfiles
      | ok a =>
          rw [bind_of_ok hfirst, ← hfiles]
          exact hnext a later

theorem onlyWrites_writeFile {path : String} (h : output = some path) (text : String) (a : α) :
    OnlyWrites output (do writeFile path text; return a) := by
  intro world
  cases hwrite : world.files.write path text with
  | error e =>
      have hfails : writeFile path text world = (.error (.plain e.message), world) := by
        simp only [writeFile, change, hwrite]
      rw [bind_of_error hfails]
      exact .inl rfl
  | ok later =>
      have hwrites : writeFile path text world = (.ok (), { world with files := later }) := by
        simp only [writeFile, change, hwrite]
      rw [bind_of_ok hwrites]
      exact .inr ⟨path, text, h, hwrite⟩

/-- **What is seen at a path stays as it was** unless the output leads there. -/
theorem OnlyWrites.look {action : Action α} (h : action.OnlyWrites output) {other : String}
    (hother : ∀ path, output = some path → ¬ (action world).2.files.SameFile path other) :
    (action world).2.files.look other = world.files.look other := by
  rcases h world with hkeeps | ⟨path, text, houtput, hwrite⟩
  · rw [hkeeps]
  · exact Files.look_of_write hwrite (hother path houtput)

end Action

open CallTree.CommandLine.Action (KeepsFiles OnlyWrites)

/-! ## The commands -/

variable {setup : Setup}

theorem onlyWrites_showTrace (trace : Json) : (showTrace setup trace).OnlyWrites setup.output := by
  refine (Action.keepsFiles_lift _).bind fun tree => ?_
  unfold emit
  split
  · rename_i path houtput
    exact Action.onlyWrites_writeFile houtput _ _
  · exact Action.onlyWrites_pure _

/-- **A command that asks for no runs** writes at most the output. -/
theorem onlyWrites_of_returned? {command : Command}
    (h : returned? setup.settings setup.service command = none) :
    (perform setup command).OnlyWrites setup.output := by
  have hcatalog (call : Runner.Client → Runner.Session Runner.Catalog) :
      OnlyWrites setup.output (do
        let client ← clientOf setup
        let catalog ← Action.call (call client)
        return catalogText catalog) :=
    (Action.keepsFiles_lift _).bind fun client =>
      (Action.keepsFiles_call _).bind fun catalog => Action.onlyWrites_pure _
  cases command with
  | run src test => cases h
  | simulate hash => cases h
  | render path => exact (Action.keepsFiles_look _).bind onlyWrites_showTrace
  | tests => exact hcatalog fun client => client.listTests setup.service
  | compile srcDir load =>
      rw [perform]
      split
      · exact Action.onlyWrites_fail _
      · rename_i dir _
        exact hcatalog fun client =>
          if load then client.loadCompiled setup.service dir else client.compile setup.service dir
  | history label =>
      refine (Action.keepsFiles_look _).bind fun history => ?_
      cases label with
      | some label => exact (Action.keepsFiles_lift _).bind onlyWrites_showTrace
      | none => exact Action.onlyWrites_pure _

theorem toOption_mapError {γ : Type} (given : Except ε α) (f : ε → γ) :
    (given.mapError f).toOption = given.toOption := by
  cases given <;> rfl

/-- How a command ends that asks for runs: at an obstacle it stops and leaves all
files, and otherwise it keeps the runs and then shows something. -/
def Asked (setup : Setup) (files : Files) (ended : Except Failure String × World) :
    Except Obstacle (List Runner.Run) → Prop
  | .error _ => ended.2.files = files
  | .ok runs => ∃ sent shown, OnlyWrites setup.output shown ∧
      ended = (keep setup runs >>= fun _ => shown) ⟨files, sent⟩

/-- What may be missing is missed by the command and by what is returned. -/
theorem Asked.lift {failed : Except Failure α} {given : Except Obstacle α}
    {next : α → Action String} {rest : α → Except Obstacle (List Runner.Run)}
    (hsame : failed.toOption = given.toOption)
    (hnext : ∀ a, Asked setup world.files (next a world) (rest a)) :
    Asked setup world.files ((Action.lift failed >>= next) world) (given >>= rest) := by
  cases failed with
  | error f =>
      cases given with
      | error o =>
          have hfails : Action.lift (α := α) (.error f) world = (.error f, world) := rfl
          rw [Action.bind_of_error hfails]
          rfl
      | ok a => cases hsame
  | ok a =>
      cases given with
      | error o => cases hsame
      | ok a' =>
          obtain rfl : a = a' := Option.some.inj hsame
          exact hnext a

/-- A call meets an obstacle where it fails. -/
theorem Asked.call {files : Files} {sent : List Runner.Request} {session : Runner.Session α}
    {next : α → Action String} {rest : α → Except Obstacle (List Runner.Run)}
    (hnext : ∀ a, Asked setup files (next a ⟨files, (session sent).2⟩) (rest a)) :
    Asked setup files ((Action.call session >>= next) ⟨files, sent⟩)
      ((session sent).1.mapError Obstacle.call >>= rest) := by
  rcases hcall : session sent with ⟨given, after⟩
  rw [hcall] at hnext
  cases given with
  | error e =>
      have hfails : Action.call session ⟨files, sent⟩ = (.error e.failure, ⟨files, after⟩) := by
        simp only [Action.call, hcall]
      rw [Action.bind_of_error hfails]
      rfl
  | ok a =>
      have hgives : Action.call session ⟨files, sent⟩ = (.ok a, ⟨files, after⟩) := by
        simp only [Action.call, hcall]
      rw [Action.bind_of_ok hgives]
      exact hnext a

/-- Where nothing is in the way any more, the runs are kept and one is shown. -/
theorem Asked.keep (runs : List Runner.Run) {shown : Action String}
    (hshown : shown.OnlyWrites setup.output) :
    Asked setup world.files ((keep setup runs >>= fun _ => shown) world) (.ok runs) :=
  ⟨world.sent, shown, hshown, rfl⟩

/-- **A command that asks for runs** keeps what is returned. -/
theorem asked_of_returned? {command : Command} {given : Except Obstacle (List Runner.Run)}
    (h : returned? setup.settings setup.service command = some given) (files : Files) :
    Asked setup files (perform setup command ⟨files, []⟩) given := by
  cases command with
  | run src test =>
      obtain rfl := Option.some.inj h
      refine Asked.lift (toOption_mapError _ _).symm fun client => ?_
      refine Asked.call fun catalog => ?_
      refine Asked.lift ?_ fun ref => ?_
      · rw [toOption_mapError, toOption_mapError]
      rw [← bind_pure ((client.runTest _ _ _).1.mapError _)]
      refine Asked.call fun runs => ?_
      refine Asked.keep runs ?_
      split
      · exact onlyWrites_showTrace _
      · exact Action.onlyWrites_fail _
  | simulate hash =>
      obtain rfl := Option.some.inj h
      refine Asked.lift (toOption_mapError _ _).symm fun client => ?_
      refine Asked.call fun run => ?_
      exact Asked.keep [run] (onlyWrites_showTrace _)
  | render path => cases h
  | tests => cases h
  | compile srcDir load => cases h
  | history label => cases h

/-! ## The history file -/

variable {runs : List Runner.Run} {history : History}

/-- Runs are not kept where the history cannot be read. -/
theorem keep_of_load_error {f : Failure}
    (h : History.load world.files setup.settings.historyPath = .error f) :
    keep setup runs world = (.error f, world) :=
  Action.bind_of_error (Prod.ext h rfl)

/-- **Runs that can be kept** are in the file, after the old ones. -/
theorem exists_keep_eq_ok {files : Files} (sent : List Runner.Request) (runs : List Runner.Run)
    (hload : History.load files setup.settings.historyPath = .ok history)
    (hwritable : History.Writable files setup.settings.historyPath) :
    ∃ later, keep setup runs ⟨files, sent⟩ = (.ok (), later) ∧
      later.files.look setup.settings.historyPath = some (.text (history.recordAll runs).text) := by
  have hpath : (history.recordAll runs).path = setup.settings.historyPath :=
    (History.path_recordAll history runs).trans (History.storable_of_load hload).1
  rw [← hpath] at hwritable
  obtain ⟨saved, hsave⟩ := hwritable.exists_save
  have hfile := (History.stored_of_save hsave).file.look
  rw [hpath] at hfile
  refine ⟨⟨saved, sent⟩, ?_, hfile⟩
  have hlook : Action.look (fun files => History.load files setup.settings.historyPath)
      ⟨files, sent⟩ = (.ok history, ⟨files, sent⟩) := Prod.ext hload rfl
  rw [keep, Action.bind_of_ok hlook]
  exact Action.change_eq_ok.mpr ⟨saved, hsave, rfl⟩

/-- The command that a run performs, with its options and settings; none where the
arguments ask for none or the settings cannot be loaded. -/
def started? (arguments : List String) (environment : List (String × String)) (files : Files) :
    Option (Options × Command × Settings) :=
  match Invocation.ofArguments arguments with
  | .perform options command =>
      (Settings.load files options.configPath environment).toOption.map (options, command, ·)
  | _ => none

/-- The files after a run are those after its command, if it performs one. -/
theorem files_run (arguments : List String) (environment : List (String × String))
    (files : Files) (service : Runner.Service) :
    (run arguments environment files service).files =
      match started? arguments environment files with
      | some (options, command, settings) =>
          (perform ⟨settings, options.output, service⟩ command ⟨files, []⟩).2.files
      | none => files := by
  unfold run started?
  cases Invocation.ofArguments arguments with
  | perform options command =>
      dsimp only
      cases Settings.load files options.configPath environment with
      | error e => rfl
      | ok settings =>
          simp only [Except.toOption, Option.map_some]
          split <;> rename_i hperform <;> rw [hperform]
  | help topic => rfl
  | version => rfl
  | misuse => rfl

/-- The history file before and after a run that performs a command. -/
structure HistoryFollows (settings : Settings) (service : Runner.Service) (command : Command)
    (files later : Files) : Prop where
  /-- A command that asks for no runs leaves the file as it is. -/
  idle : returned? settings service command = none →
    later.look settings.historyPath = files.look settings.historyPath
  /-- So does one that meets an obstacle. -/
  obstacle : ∀ o, returned? settings service command = some (.error o) →
    later.look settings.historyPath = files.look settings.historyPath
  /-- A file that cannot be read as a history stays, whatever the command. -/
  unreadable : ∀ f, History.load files settings.historyPath = .error f →
    later.look settings.historyPath = files.look settings.historyPath
  /-- Otherwise the file has the text of its old entries with all runs recorded. -/
  recorded : ∀ runs history, returned? settings service command = some (.ok runs) →
    History.load files settings.historyPath = .ok history →
    History.Writable files settings.historyPath →
    later.look settings.historyPath = some (.text (history.recordAll runs).text)

/-- What a command does to the history file, unless the output leads there. -/
theorem historyFollows_perform (setup : Setup) (command : Command) (files : Files)
    (houtput : ∀ path, setup.output = some path →
      ¬ (perform setup command ⟨files, []⟩).2.files.SameFile path setup.settings.historyPath) :
    HistoryFollows setup.settings setup.service command files
      (perform setup command ⟨files, []⟩).2.files := by
  have hidle (h : returned? setup.settings setup.service command = none) :
      (perform setup command ⟨files, []⟩).2.files.look setup.settings.historyPath =
        files.look setup.settings.historyPath :=
    (onlyWrites_of_returned? h).look houtput
  have hobstacle (o : Obstacle)
      (h : returned? setup.settings setup.service command = some (.error o)) :
      (perform setup command ⟨files, []⟩).2.files = files :=
    asked_of_returned? h files
  constructor
  case idle => exact hidle
  case obstacle =>
    intro o h
    rw [hobstacle o h]
  case unreadable =>
    intro f hload
    rcases h : returned? setup.settings setup.service command with _ | o | runs
    · exact hidle h
    · rw [hobstacle o h]
    · obtain ⟨sent, shown, _, hended⟩ := asked_of_returned? h files
      have hkeep : keep setup runs ⟨files, sent⟩ = (.error f, ⟨files, sent⟩) :=
        keep_of_load_error hload
      rw [hended, Action.bind_of_error hkeep]
  case recorded =>
    intro runs history h hload hwritable
    obtain ⟨sent, shown, hshown, hended⟩ := asked_of_returned? h files
    obtain ⟨kept, hkeep, hfile⟩ := exists_keep_eq_ok sent runs hload hwritable
    -- the output is looked for after the history was saved, so the text is in its file by then
    rw [hended, Action.bind_of_ok hkeep] at houtput ⊢
    rw [hshown.look houtput, hfile]

/-- **The history file changes only on success.**  A run that performs no command
changes no file.  A run that performs one leaves the history file as it is, or
keeps in it all the runs that were returned, whatever happens after that, unless
the output is to be written there. -/
theorem history_changes_only_on_success (arguments : List String)
    (environment : List (String × String)) (files : Files) (service : Runner.Service) :
    (started? arguments environment files = none →
      (run arguments environment files service).files = files) ∧
    ∀ options command settings,
      started? arguments environment files = some (options, command, settings) →
      (∀ path, options.output = some path →
        ¬ (run arguments environment files service).files.SameFile path settings.historyPath) →
      HistoryFollows settings service command files
        (run arguments environment files service).files := by
  rw [files_run]
  constructor
  · intro hnone
    rw [hnone]
  · intro options command settings hstarted houtput
    rw [hstarted] at houtput ⊢
    exact historyFollows_perform ⟨settings, options.output, service⟩ command files houtput

/-- A run whose output cannot be written, as there is no directory `x`. -/
def sampleLost : Outcome :=
  run ["-o", "x/y", "run", "A", "t"] sampleEnvironment Files.empty sampleService

/-- The trace is kept although the run fails. -/
theorem history_changes_only_on_success_sample :
    sampleLost.code = 1 ∧
      sampleLost.files.look "trace_history.json" = some (.text
        "\x7b\n  \"t:0\": [\n    \x7b\n      \"cost\": 7,\n      \"name\": \"V\"\n    \x7d\n  ]\n\x7d") := by
  have hstarted : started? ["-o", "x/y", "run", "A", "t"] sampleEnvironment Files.empty =
      some (⟨none, some "x/y"⟩, .run "A" "t", sampleSettings) := by
    decide +kernel
  have houtput (path : String) (hpath : some "x/y" = some path) :
      ¬ sampleLost.files.SameFile path "trace_history.json" := by
    obtain rfl := Option.some.inj hpath
    rintro ⟨place, hplace, -⟩
    have hnowhere : (sampleLost.files.locate "x/y").toOption = none := by decide +kernel
    rw [hplace] at hnowhere
    cases hnowhere
  have hreturned : returned? sampleSettings sampleService (.run "A" "t") =
      some (.ok [⟨"t:0", sampleTrace⟩]) := by
    with_unfolding_all rfl
  have hload : History.load Files.empty sampleSettings.historyPath =
      .ok ⟨"trace_history.json", KeyMap.empty⟩ := rfl
  have hwritable : History.Writable Files.empty sampleSettings.historyPath :=
    ⟨Files.empty, rfl, _, rfl⟩
  have hfollows := (history_changes_only_on_success _ _ _ sampleService).2 _ _ _ hstarted houtput
  exact ⟨by decide +kernel, hfollows.recorded _ _ hreturned hload hwritable⟩

end CallTree.CommandLine
