import CallTree.Proofs.History.Session
import CallTree.Proofs.Runner.Answers

/-!
# Recorded runs are found again

A history that was loaded from a file holds what the reader of JSON text gives,
so it can be written and read again, together with runs that were read as well.
After that every label of the runs has the trace of its last run.

* `storable_of_load` — what was loaded can be written and read again;
* `get?_recordAll` — runs take the places of earlier ones;
* `exists_load_of_save` — recorded runs are found in the saved file.
-/

namespace CallTree.History

open Json (Fits NumberInRange)

variable {files later : Files} {path : String} {h : History} {runs : List Runner.Run}

/-! ## Loaded histories -/

theorem storable_empty : Storable KeyMap.empty :=
  nofun

theorem storable_of_entriesOfText {text : String} {entries : KeyMap Json}
    (hread : entriesOfText text = .ok entries) : Storable entries := by
  unfold entriesOfText at hread
  split at hread
  · cases hread
    exact storable_empty
  · obtain ⟨fields, hfields, rfl⟩ := Json.ok_of_map hread
    cases Json.fits_of_readObject hfields with
    | obj _ hfits =>
        intro entry hmem
        rw [KeyMap.ofList_eq_foldl] at hmem
        exact hfits entry (KeyMap.mem_of_mem_foldl_insertEntry hmem)

/-- **What was loaded can be written and read again.** -/
theorem storable_of_load (hload : History.load files path = .ok h) :
    h.path = path ∧ Storable h.entries := by
  unfold History.load at hload
  split at hload
  · split at hload
    · cases hload
    · split at hload
      · cases hload
      · rename_i hread
        cases hload
        exact ⟨rfl, storable_of_entriesOfText hread⟩
  · cases hload
    exact ⟨rfl, storable_empty⟩

/-! ## Recorded runs -/

theorem path_recordAll (h : History) (runs : List Runner.Run) :
    (h.recordAll runs).path = h.path := by
  induction runs generalizing h with
  | nil => rfl
  | cons run runs ih => exact ih (h.record run)

/-- Runs that can be written and read again keep a history such. -/
theorem Storable.recordAll (hstorable : Storable h.entries)
    (hruns : ∀ run ∈ runs, Fits NumberInRange (Json.maxLevels - 1) run.trace) :
    Storable (h.recordAll runs).entries := by
  induction runs generalizing h with
  | nil => exact hstorable
  | cons run runs ih =>
      obtain ⟨hrun, hruns⟩ := List.forall_mem_cons.mp hruns
      refine ih (h := h.record run) (fun entry hmem => ?_) hruns
      rcases KeyMap.mem_insertEntry hmem with rfl | hmem
      · exact hrun
      · exact hstorable entry hmem

theorem lastTrace?_cons (label : String) (run : Runner.Run) (runs : List Runner.Run) :
    lastTrace? label (run :: runs) =
      (lastTrace? label runs).or (if run.label = label then some run.trace else none) := by
  rw [lastTrace?, List.reverse_cons, List.find?_append, lastTrace?]
  cases runs.reverse.find? fun run => run.label == label with
  | none => by_cases hlabel : run.label = label <;> simp [hlabel]
  | some found => simp

/-- **Runs take the places of earlier ones** of their labels. -/
theorem get?_recordAll (h : History) (label : String) (runs : List Runner.Run) :
    (h.recordAll runs).entries.get? label = (lastTrace? label runs).or (h.entries.get? label) := by
  induction runs generalizing h with
  | nil => rfl
  | cons run runs ih =>
      have hrecord : (h.record run).entries.get? label =
          (if run.label = label then some run.trace else none).or (h.entries.get? label) := by
        by_cases hlabel : run.label = label
        · rw [if_pos hlabel, ← hlabel]
          exact KeyMap.get?_insert_self h.entries run.label run.trace
        · rw [if_neg hlabel]
          exact KeyMap.get?_insert_of_ne h.entries (Ne.symm hlabel) run.trace
      rw [lastTrace?_cons, Option.or_assoc, ← hrecord]
      exact ih (h.record run)

/-- The last run of a label that a test gives is the run of that number. -/
theorem lastTrace?_numbered {test : String} {traces : List Json} {i : Nat} {trace : Json}
    (h : traces[i]? = some trace) :
    lastTrace? (Runner.runLabel test i) (Runner.numbered test 0 traces) = some trace := by
  have hkeys : (KeyMap.keysOf ((Runner.numbered test 0 traces).map
      fun run => (run.label, run.trace))).Nodup := by
    rw [KeyMap.keysOf, List.map_map]
    exact Runner.nodup_labels_numbered test traces
  have hmem : ⟨Runner.runLabel test i, trace⟩ ∈ Runner.numbered test 0 traces := by
    refine List.mem_of_getElem? (i := i) ?_
    rw [Runner.getElem?_numbered, h]
    rfl
  rw [← get?_entriesOf, entriesOf]
  exact KeyMap.get?_ofList_of_mem hkeys (List.mem_map.mpr ⟨_, hmem, rfl⟩)

/-- **Recorded runs are found in the saved file**, each label with the trace of
its last run. -/
theorem exists_load_of_save (hload : History.load files path = .ok h)
    (hruns : ∀ run ∈ runs, Fits NumberInRange (Json.maxLevels - 1) run.trace)
    (hsave : (h.recordAll runs).save files = (.ok (), later)) :
    ∃ history, History.load later path = .ok history ∧
      ∀ label trace, lastTrace? label runs = some trace →
        history.get label = .ok trace.reread := by
  obtain ⟨rfl, hstorable⟩ := storable_of_load hload
  have hstored := stored_of_save hsave
  rw [path_recordAll] at hstored
  refine ⟨_, hstored.load (entriesOfText_text (hstorable.recordAll hruns)), ?_⟩
  intro label trace hlast
  simp only [get, get?_reread, get?_recordAll, hlast, Option.some_or, Option.map_some]

end CallTree.History
