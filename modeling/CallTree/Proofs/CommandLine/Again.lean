import CallTree.Proofs.CommandLine.Steps
import CallTree.Proofs.History.Recall

/-!
# What was shown is shown again

A command that runs a test or simulates a transaction keeps what it got before it
shows it, and it shows what it got, while the command that looks into the history
shows what it reads in the file.  The two are equal where the numbers of the trace
are integers of 64 bits: an answer is nested less than a text may be, so whatever
the file held before, it can be written with the new runs and read again.

* `testTraces`, `simulated` — what the runner answers;
* `ShownAgain` — the history shows under a label what a run has shown;
* `history_shows_again` — it does so for tests and for transactions.
-/

namespace CallTree.CommandLine

open Json (Fits NumberInRange WholeNumber)
open Runner (numbered runLabel hashLabel)

/-- The traces of a test, in the order in which the runner answers with them. -/
def testTraces (settings : Settings) (service : Runner.Service) (src test : String) :
    Option (List Json) := do
  let client ← (Runner.Client.create settings.runner.url settings.runner.testerIsEoa
    settings.retry.maxAttempts).toOption
  let (listed, sent) := client.listTests service []
  let ref ← ((← listed.toOption).resolve src test).toOption
  let answer ← (client.fetch service .test .post (some (client.testBody ref)) sent).1.toOption
  Runner.tracesOf (← Runner.resultsOf answer ref)

/-- The simulation of a transaction that the runner answers with. -/
def simulated (settings : Settings) (service : Runner.Service) (hash : String) : Option Json := do
  let client ← (Runner.Client.create settings.runner.url settings.runner.testerIsEoa
    settings.retry.maxAttempts).toOption
  let body := Runner.Client.simulationBody hash
  Runner.firstSimulation (← (client.fetch service .simulation .post (some body) []).1.toOption)

/-- The history shows under a label what a run has shown: every later run with the
same settings that is asked for the label. -/
def ShownAgain (settings : Settings) (shown : Outcome) (label : String) : Prop :=
  ∀ arguments environment options service,
    Invocation.ofArguments arguments = .perform options (.history (some label)) →
    options.output = none →
    Settings.load shown.files options.configPath environment = .ok settings →
      (run arguments environment shown.files service).code = 0 ∧
      (run arguments environment shown.files service).output = shown.output

variable {setup : Setup} {files : Files} {output : String} {later : World}

/-! ## What the commands keep and show -/

theorem ref_of_resolve {c : Runner.Catalog} {src test : String} {ref : Runner.TestRef}
    (h : c.resolve src test = .ok ref) : ref.test = test := by
  unfold Runner.Catalog.resolve at h
  grind

/-- **A test that was shown** is one whose traces were kept, and whose last trace
was shown. -/
theorem test_eq_ok {src test : String}
    (h : perform setup (.run src test) ⟨files, []⟩ = (.ok output, later)) :
    ∃ traces last sent between, testTraces setup.settings setup.service src test = some traces ∧
      (∀ trace ∈ traces, Fits NumberInRange (Json.maxLevels - 1) trace) ∧
      traces.getLast? = some last ∧
      keep setup (numbered test 0 traces) ⟨files, sent⟩ = (.ok (), between) ∧
      showTrace setup last between = (.ok output, later) := by
  obtain ⟨client, _, hclient, hlisting⟩ := Action.bind_eq_ok.mp h
  obtain ⟨hcreate, rfl⟩ := Action.lift_eq_ok.mp hclient
  obtain ⟨catalog, _, hlisted, hresolving⟩ := Action.bind_eq_ok.mp hlisting
  obtain ⟨listed, hlist, rfl⟩ := Action.call_eq_ok.mp hlisted
  obtain ⟨ref, _, hresolved, hrunning⟩ := Action.bind_eq_ok.mp hresolving
  obtain ⟨hresolve, rfl⟩ := Action.lift_mapError_eq_ok.mp hresolved
  obtain ⟨runs, before, hrun, hkeeping⟩ := Action.bind_eq_ok.mp hrunning
  obtain ⟨sent, hruns, rfl⟩ := Action.call_eq_ok.mp hrun
  obtain ⟨answer, hfetch, hread⟩ := Runner.reading_eq_ok.mp hruns
  obtain ⟨results, traces, hresults, htraces, hne, rfl⟩ := Runner.exists_traces_of_testRuns hread
  obtain ⟨⟨⟩, between, hkeep, hshowing⟩ := Action.bind_eq_ok.mp hkeeping
  have hlast := List.getLast?_eq_some_getLast hne
  have hfits := Runner.fits_of_tracesOf (Runner.fits_of_resultsOf
    (Runner.fits_of_fetch (congrArg Prod.fst hfetch)) hresults) htraces
  obtain rfl := ref_of_resolve hresolve
  rw [Runner.getLast?_numbered hlast] at hshowing
  refine ⟨traces, traces.getLast hne, sent, between, ?_, ?_, hlast, hkeep, hshowing⟩
  · dsimp only at hlist hfetch
    simp only [testTraces, hcreate, hlist, hresolve, hfetch, hresults, htraces, Except.toOption,
      Option.bind_eq_bind, Option.bind_some]
  · exact fun trace hmem => (hfits trace hmem).mono (by decide) fun _ => id

/-- **A transaction that was shown** is one whose trace was kept under its hash. -/
theorem simulate_eq_ok {hash : String}
    (h : perform setup (.simulate hash) ⟨files, []⟩ = (.ok output, later)) :
    ∃ first trace sent between, simulated setup.settings setup.service hash = some first ∧
      first.get? "trace" = some trace ∧ Fits NumberInRange (Json.maxLevels - 1) trace ∧
      keep setup [⟨hashLabel first, trace⟩] ⟨files, sent⟩ = (.ok (), between) ∧
      showTrace setup trace between = (.ok output, later) := by
  obtain ⟨client, _, hclient, hsimulating⟩ := Action.bind_eq_ok.mp h
  obtain ⟨hcreate, rfl⟩ := Action.lift_eq_ok.mp hclient
  obtain ⟨run, before, hsimulated, hkeeping⟩ := Action.bind_eq_ok.mp hsimulating
  obtain ⟨sent, hrun, rfl⟩ := Action.call_eq_ok.mp hsimulated
  obtain ⟨answer, hfetch, hread⟩ := Runner.reading_eq_ok.mp hrun
  obtain ⟨first, hfirst, htrace, hlabel⟩ := Runner.exists_first_of_simulation hread
  obtain ⟨⟨⟩, between, hkeep, hshowing⟩ := Action.bind_eq_ok.mp hkeeping
  have hfits := (Runner.fits_of_firstSimulation (Runner.fits_of_fetch (congrArg Prod.fst hfetch))
    hfirst).get? htrace
  refine ⟨first, run.trace, sent, between, ?_, htrace, ?_, ?_, hshowing⟩
  · dsimp only at hfetch
    simp only [simulated, hcreate, hfetch, hfirst, Except.toOption, Option.bind_eq_bind,
      Option.bind_some]
  · exact hfits.mono (by decide) fun _ => id
  · rw [← hlabel]
    exact hkeep

/-! ## What is found again -/

/-- **Traces that were kept are found again** under the labels of their runs. -/
theorem exists_load_of_keep {runs : List Runner.Run} {before between : World}
    (hruns : ∀ run ∈ runs, Fits NumberInRange (Json.maxLevels - 1) run.trace)
    (hkeep : keep setup runs before = (.ok (), between)) :
    ∃ history, History.load between.files setup.settings.historyPath = .ok history ∧
      ∀ label trace, History.lastTrace? label runs = some trace → trace.Numbers WholeNumber →
        history.get label = .ok trace := by
  obtain ⟨history, hload, hsave⟩ := keep_eq_ok hkeep
  obtain ⟨history, hload, hget⟩ := History.exists_load_of_save hload hruns hsave
  refine ⟨history, hload, fun label trace hlast hwhole => ?_⟩
  rw [hget label trace hlast, Json.reread_eq_self hwhole]

/-- What is found in the history is shown as it was. -/
theorem shownAgain_of_get {trace : Json} {label : String} {history : History} {before : World}
    (houtput : setup.output = none)
    (hload : History.load later.files setup.settings.historyPath = .ok history)
    (hget : history.get label = .ok trace)
    (hshow : showTrace setup trace before = (.ok output, later)) :
    ShownAgain setup.settings ⟨0, output, "", later.files, later.sent⟩ label := by
  intro arguments environment options service harguments houtput' hsettings
  obtain ⟨⟨tree, htree, rfl⟩, -⟩ := (showTrace_eq_ok houtput).mp hshow
  have hperform : perform ⟨setup.settings, options.output, service⟩ (.history (some label))
      ⟨later.files, []⟩ = (.ok (lineOf tree.toJson.indented), ⟨later.files, []⟩) :=
    history_eq_ok houtput' hload hget htree
  rw [run_of_perform harguments hsettings hperform]
  exact ⟨rfl, rfl⟩

/-- **What was shown is shown again.**  A run that shows the last trace of a test
leaves behind a history that shows the same under the label of that trace, and
that holds all traces of the test; a run that shows a transaction leaves behind
one that shows the same under its hash. -/
theorem history_shows_again {arguments : List String} {environment : List (String × String)}
    {files : Files} {service : Runner.Service} {options : Options} {command : Command}
    {settings : Settings}
    (harguments : Invocation.ofArguments arguments = .perform options command)
    (houtput : options.output = none)
    (hsettings : Settings.load files options.configPath environment = .ok settings)
    (hcode : (run arguments environment files service).code = 0) :
    (∀ src test, command = .run src test →
      ∃ traces history, testTraces settings service src test = some traces ∧ traces ≠ [] ∧
        History.load (run arguments environment files service).files settings.historyPath =
          .ok history ∧
        (∀ i trace, traces[i]? = some trace → trace.Numbers WholeNumber →
          history.get (runLabel test i) = .ok trace) ∧
        ∀ last, traces.getLast? = some last → last.Numbers WholeNumber →
          ShownAgain settings (run arguments environment files service)
            (runLabel test (traces.length - 1))) ∧
    ∀ hash, command = .simulate hash →
      ∃ first trace, simulated settings service hash = some first ∧
        first.get? "trace" = some trace ∧
        (trace.Numbers WholeNumber →
          ShownAgain settings (run arguments environment files service) (hashLabel first)) := by
  obtain ⟨output, later, hperform, hrun⟩ := run_of_code harguments hsettings hcode
  rw [hrun]
  constructor
  · rintro src test rfl
    obtain ⟨traces, last, sent, between, htraces, hfits, hlast, hkeep, hshow⟩ :=
      test_eq_ok hperform
    obtain ⟨-, rfl⟩ := (showTrace_eq_ok houtput).mp hshow
    obtain ⟨history, hload, hfound⟩ := exists_load_of_keep (Runner.fits_numbered hfits) hkeep
    have hget (i : Nat) (trace : Json) (hi : traces[i]? = some trace)
        (hwhole : trace.Numbers WholeNumber) : history.get (runLabel test i) = .ok trace :=
      hfound _ _ (History.lastTrace?_numbered hi) hwhole
    refine ⟨traces, history, htraces, ?_, hload, hget, fun last' hlast' hwhole => ?_⟩
    · rintro rfl
      cases hlast
    · obtain rfl := Option.some.inj (hlast.symm.trans hlast')
      have hindex : traces[traces.length - 1]? = some last := List.getLast?_eq_getElem? ▸ hlast
      exact shownAgain_of_get houtput hload (hget _ _ hindex hwhole) hshow
  · rintro hash rfl
    obtain ⟨first, trace, sent, between, hfirst, htrace, hfits, hkeep, hshow⟩ :=
      simulate_eq_ok hperform
    obtain ⟨-, rfl⟩ := (showTrace_eq_ok houtput).mp hshow
    obtain ⟨history, hload, hfound⟩ :=
      exists_load_of_keep (List.forall_mem_singleton.mpr hfits) hkeep
    refine ⟨first, trace, hfirst, htrace, fun hwhole => ?_⟩
    have hlast : History.lastTrace? (hashLabel first) [⟨hashLabel first, trace⟩] = some trace := by
      simp [History.lastTrace?]
    exact shownAgain_of_get houtput hload (hfound _ _ hlast hwhole) hshow

/-! ## A run and a look into its history -/

def sampleEnvironment : List (String × String) :=
  [("TRACE_VIZ__RUNNER__URL", "http://[::1]")]

def sampleSettings : Settings :=
  { Settings.default with runner := ⟨"http://[::1]", true, 120⟩ }

/-- A runner that knows one test, which makes one call. -/
def sampleService : Runner.Service
  | 0 => .answer 200 "\x7b\"Ok\":\x7b\"Tests\":\x7b\"A\":[\"t\"]\x7d\x7d\x7d"
  | _ =>
      .answer 200 ("\x7b\"A\":\x7b\"t\":\x7b\"Test\":" ++
        "[\x7b\"trace\":[\x7b\"name\":\"V\",\"cost\":7\x7d]\x7d]\x7d\x7d\x7d")

/-- The trace of the test. -/
def sampleTrace : Json := .arr [.obj [("cost", .num (.int 7)), ("name", .str "V")]]

/-- The run of the test. -/
def sampleShown : Outcome := run ["run", "A", "t"] sampleEnvironment Files.empty sampleService

theorem ok_of_toOption {ε α : Type} {loaded : Except ε α} {a : α}
    (h : loaded.toOption = some a) : loaded = .ok a := by
  cases loaded with
  | error e => cases h
  | ok a' => exact congrArg Except.ok (Option.some.inj h)

theorem history_shows_again_sample :
    testTraces sampleSettings sampleService "A" "t" = some [sampleTrace] ∧
      (∃ history, History.load sampleShown.files "trace_history.json" = .ok history ∧
        history.get "t:0" = .ok sampleTrace) ∧
      (run ["history", "t:0"] sampleEnvironment sampleShown.files sampleService).output =
        sampleShown.output := by
  have harguments : Invocation.ofArguments ["run", "A", "t"] =
      .perform Options.none (.run "A" "t") := by decide +kernel
  have hsettings : Settings.load Files.empty "config.yml" sampleEnvironment = .ok sampleSettings :=
    ok_of_toOption (by decide +kernel)
  have hcode : sampleShown.code = 0 := by decide +kernel
  have htraces : testTraces sampleSettings sampleService "A" "t" = some [sampleTrace] := by
    with_unfolding_all rfl
  have hwhole : sampleTrace.Numbers WholeNumber :=
    .arr (List.forall_mem_singleton.mpr
      (.obj (List.forall_mem_cons.mpr ⟨.num rfl, List.forall_mem_singleton.mpr (.str "V")⟩)))
  have hagain : Settings.load sampleShown.files "config.yml" sampleEnvironment =
      .ok sampleSettings := ok_of_toOption (by decide +kernel)
  obtain ⟨traces, history, htraces', -, hload, hget, hshown⟩ :=
    (history_shows_again harguments rfl hsettings hcode).1 "A" "t" rfl
  obtain rfl := Option.some.inj (htraces.symm.trans htraces')
  refine ⟨htraces, ⟨history, hload, hget 0 sampleTrace rfl hwhole⟩, ?_⟩
  exact (hshown sampleTrace rfl hwhole _ _ Options.none _ (by decide +kernel) rfl hagain).2

end CallTree.CommandLine
