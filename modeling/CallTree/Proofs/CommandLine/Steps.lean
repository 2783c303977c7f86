import CallTree.CommandLine.Run

/-!
# Steps that succeed

A step that succeeds is made of steps that succeed, one after the other, so what a
command did is read off its result: which answers it got, which history it wrote,
and which tree it put out.  A tree that is put out as output leaves everything
else as it is.

* `Action.bind_eq_ok`, `Action.lift_eq_ok`, `Action.look_eq_ok`, `Action.call_eq_ok` —
  what the steps of each kind do;
* `Action.bind_of_error`, `Action.bind_of_ok` — what comes after a step;
* `showTrace_eq_ok`, `keep_eq_ok`, `history_eq_ok` — the same for parts of commands;
* `run_of_code` — a run that ends well performed its command.
-/

namespace CallTree.CommandLine

variable {α β : Type} {world later : World} {a : α}

namespace Action

theorem bind_eq_ok {first : Action α} {next : α → Action β} {b : β} :
    (first >>= next) world = (.ok b, later) ↔
      ∃ a between, first world = (.ok a, between) ∧ next a between = (.ok b, later) := by
  change Action.bind first next world = _ ↔ _
  unfold Action.bind
  split
  · rename_i a between hfirst
    simp [hfirst, and_assoc]
  · rename_i f between hfirst
    simp [hfirst]

/-- A step that fails is not followed by another one. -/
theorem bind_of_error {first : Action α} {next : α → Action β} {f : Failure} {later : World}
    (h : first world = (.error f, later)) : (first >>= next) world = (.error f, later) := by
  change Action.bind first next world = _
  simp only [Action.bind, h]

/-- A step that succeeds is followed by the next one. -/
theorem bind_of_ok {first : Action α} {next : α → Action β} {a : α} {later : World}
    (h : first world = (.ok a, later)) : (first >>= next) world = next a later := by
  change Action.bind first next world = _
  simp only [Action.bind, h]

theorem lift_eq_ok {e : Except Failure α} :
    lift e world = (.ok a, later) ↔ e = .ok a ∧ world = later := by
  simp [lift]

theorem lift_mapError_eq_ok {ε : Type} {e : Except ε α} {f : ε → Failure} :
    lift (e.mapError f) world = (.ok a, later) ↔ e = .ok a ∧ world = later := by
  have hmap : e.mapError f = .ok a ↔ e = .ok a := by
    cases e with
    | error e => exact ⟨nofun, nofun⟩
    | ok a' => exact ⟨fun h => congrArg _ (Except.ok.inj h), fun h => congrArg _ (Except.ok.inj h)⟩
  rw [lift_eq_ok, hmap]

theorem look_eq_ok {read : Files → Except Failure α} :
    look read world = (.ok a, later) ↔ read world.files = .ok a ∧ world = later := by
  simp [look]

theorem change_eq_ok {write : Files → Except Failure Unit × Files} :
    change write world = (.ok (), later) ↔
      ∃ files, write world.files = (.ok (), files) ∧ later = { world with files } := by
  simp only [change, Prod.ext_iff]
  grind

theorem call_eq_ok {session : Runner.Session α} :
    call session world = (.ok a, later) ↔
      ∃ sent, session world.sent = (.ok a, sent) ∧ later = { world with sent } := by
  unfold call
  split <;> grind

end Action

/-! ## Parts of commands -/

variable {setup : Setup} {output : String}

/-- **The tree of a trace is put out** where there is one, and nothing else
happens. -/
theorem showTrace_eq_ok (houtput : setup.output = none) {trace : Json} :
    showTrace setup trace world = (.ok output, later) ↔
      (∃ tree, Tree.ofTrace setup.settings.style trace = .ok tree ∧
        output = lineOf tree.toJson.indented) ∧ later = world := by
  have hemit (tree : Tree.Node) (world : World) :
      emit setup tree world = (.ok (lineOf tree.toJson.indented), world) := by
    unfold emit
    rw [houtput]
    rfl
  rw [showTrace, Action.bind_eq_ok]
  constructor
  · rintro ⟨tree, between, hlift, hput⟩
    obtain ⟨htree, rfl⟩ := Action.lift_mapError_eq_ok.mp hlift
    rw [hemit] at hput
    cases hput
    exact ⟨⟨tree, htree, rfl⟩, rfl⟩
  · rintro ⟨⟨tree, htree, rfl⟩, rfl⟩
    exact ⟨tree, later, Action.lift_mapError_eq_ok.mpr ⟨htree, rfl⟩, hemit tree later⟩

/-- **Runs that were kept** are in the file of the history that was loaded. -/
theorem keep_eq_ok {runs : List Runner.Run} (h : keep setup runs world = (.ok (), later)) :
    ∃ history, History.load world.files setup.settings.historyPath = .ok history ∧
      (history.recordAll runs).save world.files = (.ok (), later.files) := by
  obtain ⟨history, between, hlook, hchange⟩ := Action.bind_eq_ok.mp h
  obtain ⟨hload, rfl⟩ := Action.look_eq_ok.mp hlook
  obtain ⟨files, hsave, rfl⟩ := Action.change_eq_ok.mp hchange
  exact ⟨history, hload, hsave⟩

/-- What is stored under a label is shown. -/
theorem history_eq_ok (houtput : setup.output = none) {label : String} {history : History}
    {trace : Json} {tree : Tree.Node}
    (hload : History.load world.files setup.settings.historyPath = .ok history)
    (hget : history.get label = .ok trace)
    (htree : Tree.ofTrace setup.settings.style trace = .ok tree) :
    perform setup (.history (some label)) world =
      (.ok (lineOf tree.toJson.indented), world) := by
  refine Action.bind_eq_ok.mpr ⟨history, world, Action.look_eq_ok.mpr ⟨hload, rfl⟩, ?_⟩
  refine Action.bind_eq_ok.mpr ⟨trace, world, Action.lift_eq_ok.mpr ⟨hget, rfl⟩, ?_⟩
  exact (showTrace_eq_ok houtput).mpr ⟨⟨tree, htree, rfl⟩, rfl⟩

/-! ## Runs -/

variable {arguments : List String} {environment : List (String × String)} {files : Files}
  {service : Runner.Service} {options : Options} {command : Command} {settings : Settings}

/-- **A run that ends well** performed its command. -/
theorem run_of_code (harguments : Invocation.ofArguments arguments = .perform options command)
    (hsettings : Settings.load files options.configPath environment = .ok settings)
    (hcode : (run arguments environment files service).code = 0) :
    ∃ output later,
      perform ⟨settings, options.output, service⟩ command ⟨files, []⟩ = (.ok output, later) ∧
      run arguments environment files service = ⟨0, output, "", later.files, later.sent⟩ := by
  simp only [run, harguments, hsettings] at hcode ⊢
  split at hcode
  · rename_i output later hperform
    exact ⟨output, later, hperform, rfl⟩
  · cases hcode

/-- A command that succeeds is a run that ends well. -/
theorem run_of_perform {output : String} {later : World}
    (harguments : Invocation.ofArguments arguments = .perform options command)
    (hsettings : Settings.load files options.configPath environment = .ok settings)
    (hperform : perform ⟨settings, options.output, service⟩ command ⟨files, []⟩ =
      (.ok output, later)) :
    run arguments environment files service = ⟨0, output, "", later.files, later.sent⟩ := by
  simp only [run, harguments, hsettings, hperform]

end CallTree.CommandLine
