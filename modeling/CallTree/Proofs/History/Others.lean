import CallTree.Proofs.History.Recall

/-!
# What recording leaves as it was

The runs of a test are kept under the name of the test and their numbers.  A name
may hold colons and digits like those of a number, and still the label tells both
apart.  So the runs of a test never take the place of runs of a test with another
name.  The source of a test is no part of the label: of two tests with one name, each
run takes the place of the run of the same number, and what has no counterpart
stays.

* `lastTrace?_runLabel` — what the runs of a test say about a label of a test;
* `get_recordAll` — what is found after recording;
* `recorded_runs_leave_others` — runs of another name stay, and of the same name those
  without a counterpart;
* `runs_of_one_name_overwritten` — runs of another source do not.
-/

namespace CallTree.History

open Runner (Run TestRef numbered runLabel testRuns)

variable {label test other : String} {runs : List Run} {traces : List Json}

/-- Runs of other labels say nothing about a label. -/
theorem lastTrace?_eq_none (h : ∀ run ∈ runs, run.label ≠ label) : lastTrace? label runs = none := by
  rw [lastTrace?, Option.map_eq_none_iff, List.find?_eq_none]
  intro run hmem
  simpa using h run (List.mem_reverse.mp hmem)

/-- A run of a test has a label of a test only if it is the same one, and the number is
that of a run. -/
theorem of_label_numbered {run : Run} {i : Nat} (hmem : run ∈ numbered test 0 traces)
    (hlabel : run.label = runLabel other i) : test = other ∧ i < traces.length := by
  obtain ⟨j, hj, rfl⟩ := List.mem_mapIdx.mp hmem
  obtain ⟨rfl, rfl⟩ := Runner.runLabel_inj.mp hlabel
  exact ⟨rfl, by omega⟩

/-- **The runs of a test say something of its own labels only**, and of each of them the
trace of its number. -/
theorem lastTrace?_runLabel (test other : String) (i : Nat) (traces : List Json) :
    lastTrace? (runLabel other i) (numbered test 0 traces) =
      if test = other then traces[i]? else none := by
  by_cases hname : test = other
  · rw [if_pos hname, ← hname]
    cases htrace : traces[i]? with
    | some trace => exact lastTrace?_numbered htrace
    | none =>
        refine lastTrace?_eq_none fun run hmem hlabel => ?_
        have hlt := (of_label_numbered hmem hlabel).2
        exact absurd (List.getElem?_eq_none_iff.mp htrace) (Nat.not_le.mpr hlt)
  · rw [if_neg hname]
    exact lastTrace?_eq_none fun run hmem hlabel => hname (of_label_numbered hmem hlabel).1

/-- **What is found after recording**: the last trace of a label, or what was there
before. -/
theorem get_recordAll (h : History) (label : String) (runs : List Run) :
    (h.recordAll runs).get label = (lastTrace? label runs).elim (h.get label) .ok := by
  simp only [get, get?_recordAll]
  cases lastTrace? label runs <;> rfl

/-- **The runs of a test leave the runs of all tests of another name as they were.**
Runs of a test of the same name, whatever its source, are replaced one by one: each by
the run of its number, and those for which there is none are left as well. -/
theorem recorded_runs_leave_others (h : History) {answer earlier : Json} {ref other : TestRef}
    {runs others : List Run} (hruns : testRuns answer ref = .ok runs)
    (hothers : testRuns earlier other = .ok others) :
    (ref.test ≠ other.test → ∀ run ∈ others, (h.recordAll runs).get run.label = h.get run.label) ∧
      (ref.test = other.test → ∀ (i : Nat) (run : Run), others[i]? = some run →
        (h.recordAll runs).get run.label =
          (runs[i]?).elim (h.get run.label) fun replacing => .ok replacing.trace) := by
  obtain ⟨_, traces, _, _, _, rfl⟩ := Runner.exists_traces_of_testRuns hruns
  obtain ⟨_, otherTraces, _, _, _, rfl⟩ := Runner.exists_traces_of_testRuns hothers
  constructor
  case left =>
    intro hname run hmem
    obtain ⟨i, hi, rfl⟩ := List.mem_mapIdx.mp hmem
    rw [get_recordAll, lastTrace?_runLabel, if_neg hname]
    rfl
  case right =>
    intro hname i run hrun
    rw [Runner.getElem?_numbered] at hrun
    obtain ⟨trace, _, rfl⟩ := Option.map_eq_some_iff.mp hrun
    rw [get_recordAll, lastTrace?_runLabel, if_pos hname, Runner.getElem?_numbered]
    cases traces[i]? <;> rfl

/-- A trace of a single frame. -/
def frameNamed (name : String) : Json :=
  .obj [("name", .str name)]

/-- An answer with one run of a test. -/
def answerFor (ref : TestRef) (trace : Json) : Json :=
  .obj [(ref.src, .obj [(ref.test, .obj [("Test", .arr [.obj [("trace", trace)]])])])]

/-- A history with one run. -/
def holding (label : String) (trace : Json) : History :=
  ⟨"history.json", KeyMap.empty.insert label trace⟩

/-- The run of a test whose name looks like the label of a run, and the run of a test of
the same name from another source. -/
theorem recorded_runs_leave_others_samples :
    ((holding "t:0:0" (frameNamed "A")).recordAll [⟨"t:0", frameNamed "B"⟩]).get "t:0:0" =
        .ok (frameNamed "A") ∧
      ((holding "t:0" (frameNamed "A")).recordAll [⟨"t:0", frameNamed "B"⟩]).get "t:0" =
        .ok (frameNamed "B") := by
  have hruns : testRuns (answerFor ⟨"b/x", "t"⟩ (frameNamed "B")) ⟨"b/x", "t"⟩ =
      .ok [⟨"t:0", frameNamed "B"⟩] := rfl
  have hother : testRuns (answerFor ⟨"a/x", "t:0"⟩ (frameNamed "A")) ⟨"a/x", "t:0"⟩ =
      .ok [⟨"t:0:0", frameNamed "A"⟩] := rfl
  have hsame : testRuns (answerFor ⟨"a/x", "t"⟩ (frameNamed "A")) ⟨"a/x", "t"⟩ =
      .ok [⟨"t:0", frameNamed "A"⟩] := rfl
  exact ⟨(recorded_runs_leave_others _ hruns hother).1 (by decide) _ List.mem_cons_self,
    (recorded_runs_leave_others _ hruns hsame).2 rfl 0 _ rfl⟩

/-- **Runs of a test of the same name are overwritten**, also if they come from another
source. -/
theorem runs_of_one_name_overwritten :
    ¬ ∀ (h : History) (answer earlier : Json) (ref other : TestRef) (runs others : List Run),
      ref ≠ other → testRuns answer ref = .ok runs → testRuns earlier other = .ok others →
        ∀ run ∈ others,
          ((h.recordAll others).recordAll runs).get run.label = (h.recordAll others).get run.label := by
  intro hall
  have hkept := hall ⟨"history.json", KeyMap.empty⟩ (answerFor ⟨"b/x", "t"⟩ (frameNamed "B"))
    (answerFor ⟨"a/x", "t"⟩ (frameNamed "A")) ⟨"b/x", "t"⟩ ⟨"a/x", "t"⟩ [⟨"t:0", frameNamed "B"⟩]
    [⟨"t:0", frameNamed "A"⟩] (by decide) rfl rfl _ List.mem_cons_self
  have hlast (h : History) (name : String) :
      (h.recordAll [⟨"t:0", frameNamed name⟩]).get "t:0" = .ok (frameNamed name) := by
    rw [get_recordAll]
    rfl
  rw [hlast, hlast] at hkept
  exact absurd hkept (by simp [frameNamed])

end CallTree.History
