import CallTree.Proofs.History.File
import CallTree.Proofs.KeyMap
import CallTree.Proofs.Text.ByteOrder

/-!
# A history over many steps

A history is used step by step: runs are recorded, and the whole is saved and
loaded.  What it holds at any moment is what the runs that it still includes say
last of each label.  Those are the runs recorded since it was loaded, after the
runs that were included when the file was saved.

Each step keeps this, so it holds after any number of steps, and the file that is
loaded at any moment holds the entries of the latest save.  All that it takes is
that a file can be written at the path once the directory of the file is made;
that alone is not enough, as the path may still name a directory.

* `Tracks.step` — one step keeps the history in accord with the included runs;
* `Tracks.after` — so does any number of steps;
* `persistent` — the history file is a map that persists.
-/

namespace CallTree.History

open Json (Fits NumberInRange WholeNumber)

/-! ## Steps -/

/-- What is done with a history. -/
inductive Step where
  | record (run : Runner.Run)
  | save
  | load

/-- A history, and the files around it. -/
structure Session where
  files : Files
  history : History

namespace Session

/-- An empty history that is to be kept at a path. -/
def start (files : Files) (path : String) : Session := ⟨files, ⟨path, KeyMap.empty⟩⟩

/-- One step, and whether it succeeded.  A history that cannot be loaded stays as
it is. -/
def step (s : Session) : Step → Except Failure Unit × Session
  | .record run => (.ok (), { s with history := s.history.record run })
  | .save =>
      let (saved, files) := s.history.save s.files
      (saved, { s with files })
  | .load =>
      match History.load s.files s.history.path with
      | .ok history => (.ok (), { s with history })
      | .error f => (.error f, s)

/-- The session after some steps. -/
def after (s : Session) (steps : List Step) : Session :=
  steps.foldl (fun s step => (s.step step).2) s

end Session

/-- The runs that a history includes, and those that its file does. -/
structure Included where
  now : List Runner.Run
  inFile : List Runner.Run

namespace Included

/-- No runs at all. -/
def none : Included := ⟨[], []⟩

/-- The runs included after one more step. -/
def step (included : Included) : Step → Included
  | .record run => { included with now := included.now ++ [run] }
  | .save => { included with inFile := included.now }
  | .load => { included with now := included.inFile }

/-- The runs included after some steps. -/
def after (included : Included) (steps : List Step) : Included :=
  steps.foldl step included

end Included

/-- The trace of the last run of a label. -/
def lastTrace? (label : String) (runs : List Runner.Run) : Option Json :=
  (runs.reverse.find? fun run => run.label == label).map Runner.Run.trace

/-- The entries that runs make, recorded one after the other. -/
def entriesOf (runs : List Runner.Run) : KeyMap Json :=
  KeyMap.ofList (runs.map fun run => (run.label, run.trace))

/-- A trace that the file can hold as it is: integers of 64 bits for numbers, and
one level less than a text may have.  The keys of an object are in order, as the
reader of JSON text always has them. -/
def Kept (trace : Json) : Prop :=
  trace.nesting ≤ 126 ∧ trace.Numbers WholeNumber ∧ trace.Sorted

/-- A step whose trace can be kept, if it has one. -/
def Step.Kept : Step → Prop
  | .record run => History.Kept run.trace
  | _ => True

/-! ## Entries -/

theorem entriesOf_append (runs : List Runner.Run) (run : Runner.Run) :
    entriesOf (runs ++ [run]) = (entriesOf runs).insert run.label run.trace := by
  rw [entriesOf, KeyMap.ofList, List.map_append, List.foldl_append]
  rfl

theorem get?_entriesOf (label : String) (runs : List Runner.Run) :
    (entriesOf runs).get? label = lastTrace? label runs := by
  rw [entriesOf, KeyMap.get?_ofList, lastTrace?, ← List.map_reverse]
  induction runs.reverse with
  | nil => rfl
  | cons run runs ih =>
      rw [List.map_cons, List.lookup_cons, List.find?_cons, ih]
      by_cases hlabel : label = run.label
      · simp [hlabel]
      · have hother : (run.label == label) = false := beq_eq_false_iff_ne.mpr fun h => hlabel h.symm
        rw [beq_eq_false_iff_ne.mpr hlabel, hother]

/-- Every entry is the trace of a run. -/
theorem exists_run_of_mem {runs : List Runner.Run} {entry : String × Json}
    (hmem : entry ∈ (entriesOf runs).entries) : ∃ run ∈ runs, run.trace = entry.2 := by
  rw [entriesOf, KeyMap.ofList_eq_foldl] at hmem
  obtain ⟨run, hrun, rfl⟩ := List.mem_map.mp (KeyMap.mem_of_mem_foldl_insertEntry hmem)
  exact ⟨run, hrun, rfl⟩

variable {files : Files} {path : String}

/-- Entries made of traces that can be kept come back as they are. -/
theorem entriesOfText_kept {runs : List Runner.Run} (hkept : ∀ run ∈ runs, Kept run.trace) :
    entriesOfText (History.mk path (entriesOf runs)).text = .ok (entriesOf runs) := by
  have hentries : ∀ entry ∈ (entriesOf runs).entries, Kept entry.2 := by
    intro entry hmem
    obtain ⟨run, hrun, htrace⟩ := exists_run_of_mem hmem
    exact htrace ▸ hkept run hrun
  have hstorable : Storable (entriesOf runs) := fun entry hmem =>
    have ⟨hnesting, hnumbers, hsorted⟩ := hentries entry hmem
    (Json.fits_iff.mpr ⟨hnesting, hsorted, hnumbers⟩).mono (Nat.le_refl _) fun _ h => h.inRange
  have hread := entriesOfText_text (h := History.mk path (entriesOf runs)) hstorable
  rwa [reread_eq_self fun entry hmem => (hentries entry hmem).2.1] at hread

/-! ## What the steps keep -/

/-- The history holds what the included runs say, the file what those say that it
includes, and the history can be saved. -/
structure Tracks (path : String) (s : Session) (included : Included) : Prop where
  atPath : s.history.path = path
  entries : s.history.entries = entriesOf included.now
  now : ∀ run ∈ included.now, Kept run.trace
  inFile : ∀ run ∈ included.inFile, Kept run.trace
  loads : History.load s.files path = .ok ⟨path, entriesOf included.inFile⟩
  saves : ∀ h : History, h.path = path → ∃ later, h.save s.files = (.ok (), later)

variable {s : Session} {included : Included}

theorem Tracks.history (h : Tracks path s included) :
    s.history = ⟨path, entriesOf included.now⟩ := by
  rw [← h.atPath, ← h.entries]

/-- **One step keeps the history in accord with the included runs**, and
succeeds. -/
theorem Tracks.step (h : Tracks path s included) {step : Step} (hkept : step.Kept) :
    (s.step step).1 = .ok () ∧ Tracks path (s.step step).2 (included.step step) := by
  cases step with
  | record run =>
      refine ⟨rfl, { h with entries := ?_, now := ?_ }⟩
      · have hentries : s.history.entries.insert run.label run.trace =
            (entriesOf included.now).insert run.label run.trace := by rw [h.entries]
        exact hentries.trans (entriesOf_append included.now run).symm
      · intro run' hrun'
        rcases List.mem_append.mp hrun' with hrun' | hrun'
        · exact h.now run' hrun'
        · rw [List.mem_singleton.mp hrun']
          exact hkept
  | save =>
      obtain ⟨later, hsave⟩ := h.saves s.history h.atPath
      have hstored := stored_of_save hsave
      rw [h.history] at hstored
      rw [Session.step, hsave]
      exact ⟨rfl, ⟨h.atPath, h.entries, h.now, h.now, hstored.load (entriesOfText_kept h.now),
        fun _ hpath => hstored.exists_save hpath⟩⟩
  | load =>
      rw [Session.step, h.atPath, h.loads]
      exact ⟨rfl, ⟨rfl, rfl, h.inFile, h.inFile, h.loads, h.saves⟩⟩

/-- **So does any number of steps.** -/
theorem Tracks.after (h : Tracks path s included) {steps : List Step}
    (hkept : ∀ step ∈ steps, step.Kept) :
    Tracks path (s.after steps) (included.after steps) := by
  induction steps generalizing s included with
  | nil => exact h
  | cons step steps ih =>
      obtain ⟨hstep, hsteps⟩ := List.forall_mem_cons.mp hkept
      exact ih (h.step hstep).2 hsteps

/-! ## The history file as a map -/

/-- A path where no file stands, but where one can be written once the directory
of the file is made. -/
structure Free (files : Files) (path : String) : Prop where
  noFile : files.hasFile path = false
  writable : ∃ made, (History.mk path KeyMap.empty).makeParent files = (.ok (), made) ∧
    ∃ later, made.write path "" = .ok later

/-- At a free path there is nothing to load yet, and a history can be saved. -/
theorem Free.tracks (h : Free files path) : Tracks path (Session.start files path) .none := by
  obtain ⟨made, hparent, later, hwrite⟩ := h.writable
  have hnone : files.has path = false := by
    have hdirectory : files.look path ≠ some .directory := fun hlook =>
      Files.look_ne_of_write hwrite ((keepsDirectories_makeParent hparent).look hlook)
    have hfile := h.noFile
    unfold Files.hasFile at hfile
    unfold Files.has
    grind
  refine ⟨rfl, rfl, by simp [Included.none], by simp [Included.none], ?_, ?_⟩
  · rw [History.load, Session.start, hnone, if_neg Bool.false_ne_true]
    rfl
  · rintro history rfl
    exact Writable.exists_save h.writable

/-- What a history promises after some steps, however they may go on. -/
structure Persistent (start : Session) (steps : List Step) : Prop where
  /-- Saving succeeds. -/
  saves : ((start.after steps).step .save).1 = .ok ()
  /-- Loading gives the entries of the latest save. -/
  loads : ∀ front back, steps = front ++ .save :: back → .save ∉ back →
    History.load (start.after steps).files start.history.path =
      .ok ⟨start.history.path, (start.after front).history.entries⟩
  /-- Without any save it gives none. -/
  loadsNone : .save ∉ steps →
    History.load (start.after steps).files start.history.path =
      .ok ⟨start.history.path, KeyMap.empty⟩
  /-- A label has the trace of the last included run of the label. -/
  get : ∀ label, (start.after steps).history.get label =
    match lastTrace? label (Included.none.after steps).now with
    | some trace => .ok trace
    | none => .error (unknownLabel label)
  /-- The labels are listed in the order of their bytes, each once. -/
  labels : ((start.after steps).history.labels.map Text.utf8).Pairwise (· < ·)
  /-- There are as many entries as labels. -/
  size : (start.after steps).history.size = (start.after steps).history.labels.length

/-- The entries of a history in the order of their labels' bytes. -/
theorem labels_increasing (h : History) : (h.labels.map Text.utf8).Pairwise (· < ·) :=
  List.pairwise_map.mpr (h.entries.increasing.imp Text.utf8_lt_utf8)

theorem size_eq_length_labels (h : History) : h.size = h.labels.length :=
  (List.length_map Prod.fst).symm

/-- What is in the file stays until the next save. -/
theorem inFile_after {steps : List Step} (h : .save ∉ steps) (included : Included) :
    (included.after steps).inFile = included.inFile := by
  induction steps generalizing included with
  | nil => rfl
  | cons step steps ih =>
      rw [List.mem_cons, not_or] at h
      obtain ⟨hstep, hsteps⟩ := h
      refine (ih hsteps (included.step step)).trans ?_
      cases step with
      | save => exact absurd rfl hstep
      | record run => rfl
      | load => rfl

/-- **The history file is a map that persists.** -/
theorem persistent (hfree : Free files path) {steps : List Step}
    (hkept : ∀ step ∈ steps, step.Kept) : Persistent (Session.start files path) steps := by
  have htracks := hfree.tracks.after hkept
  refine
    { saves := (htracks.step (show Step.Kept .save from trivial)).1
      loads := ?_
      loadsNone := ?_
      get := ?_
      labels := labels_increasing _
      size := size_eq_length_labels _ }
  · rintro front back rfl hback
    have hfront := hfree.tracks.after fun step hmem => hkept step (List.mem_append_left _ hmem)
    have hfile : (Included.none.after (front ++ .save :: back)).inFile =
        (Included.none.after front).now := by
      rw [Included.after, List.foldl_append]
      exact inFile_after hback _
    rw [hfront.entries, ← hfile]
    exact htracks.loads
  · intro hnone
    have hfile : (Included.none.after steps).inFile = [] := inFile_after hnone _
    have hloads := htracks.loads
    rw [hfile] at hloads
    exact hloads
  · intro label
    have hget : ((Session.start files path).after steps).history.entries.get? label =
        lastTrace? label (Included.none.after steps).now := by
      rw [htracks.entries, get?_entriesOf]
    cases hlast : lastTrace? label (Included.none.after steps).now <;>
      simp only [get, hget, hlast]

/-- The first run of a test, with a trace that holds an integer and a text. -/
def sampleRun : Runner.Run :=
  ⟨"testSwap:0", .obj [("name", .str "swap"), ("value", .num (.int 7))]⟩

theorem persistent_sample :
    Persistent (Session.start Files.empty "runs/history.json")
      [.record sampleRun, .save, .record ⟨"a", .null⟩, .load] := by
  have hnest : Path.nest "runs" = ["runs"] := by decide +kernel
  have hdirs : Files.empty.makeDirs "runs" = (.ok (), Files.empty.put ["runs"] .directory) := by
    rw [Files.makeDirs, hnest]
    rfl
  refine persistent ⟨by decide, _, (makeParent_iff rfl (by decide)).mpr hdirs, _, rfl⟩ ?_
  intro step hstep
  simp only [List.mem_cons, List.not_mem_nil, or_false] at hstep
  rcases hstep with rfl | rfl | rfl | rfl
  · refine ⟨by decide, .obj ?_, .obj (by decide) ?_⟩
    · exact List.forall_mem_cons.mpr ⟨.str "swap", List.forall_mem_cons.mpr ⟨.num rfl, nofun⟩⟩
    · exact List.forall_mem_cons.mpr ⟨.str "swap", List.forall_mem_cons.mpr ⟨.num _, nofun⟩⟩
  · trivial
  · exact ⟨by decide, .null, .null⟩
  · trivial

/-- **The directory of the file alone is not enough**: once `x` is made, `x/..`
names a directory, so nothing can be saved there or loaded from there. -/
theorem not_persistent_above :
    (∃ made, (History.mk "x/.." KeyMap.empty).makeParent Files.empty = (.ok (), made)) ∧
      Files.empty.hasFile "x/.." = false ∧
      History.load ((Session.start Files.empty "x/..").after [.save]).files "x/.." =
        .error (.because "failed to read trace history x/.." "Is a directory (os error 21)") ∧
      ¬ Persistent (Session.start Files.empty "x/..") [.save] := by
  have hnest : Path.nest "x" = ["x"] := by decide +kernel
  have hdirs : Files.empty.makeDirs "x" = (.ok (), Files.empty.put ["x"] .directory) := by
    rw [Files.makeDirs, hnest]
    rfl
  have hparent : (History.mk "x/.." KeyMap.empty).makeParent Files.empty =
      (.ok (), Files.empty.put ["x"] .directory) :=
    (makeParent_iff rfl (by decide)).mpr hdirs
  have hload : History.load ((Session.start Files.empty "x/..").after [.save]).files "x/.." =
      .error (.because "failed to read trace history x/.." "Is a directory (os error 21)") := by
    have hafter : ((Session.start Files.empty "x/..").after [.save]).files =
        Files.empty.put ["x"] .directory := by
      simp only [Session.after, List.foldl_cons, List.foldl_nil, Session.step, Session.start, save,
        hparent]
      rfl
    rw [hafter]
    rfl
  refine ⟨⟨_, hparent⟩, by decide, hload, fun h => ?_⟩
  have hloads := h.loads [] [] rfl List.not_mem_nil
  rw [Session.start] at hload hloads
  rw [hload] at hloads
  cases hloads

end CallTree.History
