import CallTree.Proofs.Frame.Form
import CallTree.Proofs.Json.Place
import CallTree.Proofs.Runner.Answers

/-!
# The runs of a test, all or none

The results of a test stand in an answer below the source, the name of the test and
`Test`.  Each of them has to be an object with a trace.  They are gone through in
order, so the first one without a trace is the one that is named, and then there is no
run at all; otherwise every result is a run, with its number for a label.

* `runsFrom_eq_ok_iff`, `runsFrom_eq_error_iff` — going through the results;
* `testRuns_eq_ok_iff`, `testRuns_eq_error_iff` — what an answer gives;
* `runs_all_or_none` — runs, errors and labels together.
-/

namespace CallTree.Runner

open Json (holdsAt_cons holdsAt_nil holdsAt_singleton)

variable {answer : Json} {ref : TestRef} {test : String} {index : Nat} {results : List Json}
  {runs : List Run} {e : ResponseError}

/-! ## Results and their traces -/

/-- Whether a result is an object with a trace. -/
def Traced (result : Json) : Prop :=
  ∃ trace, result.HoldsAt ["trace"] trace

/-- Whether the first result without a trace has the number `i`. -/
structure FirstUntraced (results : List Json) (i : Nat) : Prop where
  untraced : ∃ result, results[i]? = some result ∧ ¬ Traced result
  first : ∀ j < i, ∀ result, results[j]? = some result → Traced result

theorem traced_iff {result : Json} : Traced result ↔ ∃ trace, result.get? "trace" = some trace := by
  simp only [Traced, holdsAt_singleton]

theorem not_traced_iff {result : Json} : ¬ Traced result ↔ result.get? "trace" = none := by
  rw [traced_iff, Option.eq_none_iff_forall_ne_some, not_exists]

/-- The first result may be the one without a trace. -/
theorem firstUntraced_zero {result : Json} :
    FirstUntraced (result :: results) 0 ↔ ¬ Traced result := by
  constructor
  · rintro ⟨⟨found, hfound, hbare⟩, _⟩
    cases hfound
    exact hbare
  · intro hbare
    exact ⟨⟨result, rfl, hbare⟩, nofun⟩

/-- Otherwise the results after it are gone through in the same way. -/
theorem firstUntraced_succ {result : Json} {i : Nat} :
    FirstUntraced (result :: results) (i + 1) ↔ Traced result ∧ FirstUntraced results i := by
  constructor
  · rintro ⟨hbare, hfirst⟩
    refine ⟨hfirst 0 (Nat.succ_pos i) result rfl, hbare, ?_⟩
    intro j hj found hfound
    exact hfirst (j + 1) (Nat.succ_lt_succ hj) found hfound
  · rintro ⟨htraced, hbare, hfirst⟩
    refine ⟨hbare, ?_⟩
    intro j hj found hfound
    cases j with
    | zero =>
        cases hfound
        exact htraced
    | succ j => exact hfirst j (Nat.lt_of_succ_lt_succ hj) found hfound

/-! ## Going through the results -/

theorem tracesOf_eq_some_iff {traces : List Json} :
    tracesOf results = some traces ↔
      List.Forall₂ (fun result trace => result.HoldsAt ["trace"] trace) results traces := by
  simp only [holdsAt_singleton]
  induction results generalizing traces with
  | nil =>
      have hnil : tracesOf [] = some [] := rfl
      rw [hnil, List.forall₂_nil_left_iff, Option.some_inj, eq_comm]
  | cons result results ih =>
      rw [tracesOf_cons, List.forall₂_cons_left_iff]
      simp only [Option.bind_eq_some_iff, Option.map_eq_some_iff, ih]
      constructor
      · rintro ⟨trace, htrace, rest, hrest, rfl⟩
        exact ⟨trace, rest, htrace, hrest, rfl⟩
      · rintro ⟨trace, rest, htrace, hrest, rfl⟩
        exact ⟨trace, htrace, rest, hrest, rfl⟩

/-- The step of going through the results. -/
theorem runsFrom_cons_of_trace {result trace : Json} (h : result.get? "trace" = some trace) :
    runsFrom test index (result :: results) =
      (runsFrom test (index + 1) results).map (⟨runLabel test index, trace⟩ :: ·) := by
  rw [runsFrom, h]
  cases runsFrom test (index + 1) results <;> rfl

/-- **Results become runs where each has a trace.** -/
theorem runsFrom_eq_ok_iff :
    runsFrom test index results = .ok runs ↔
      ∃ traces, tracesOf results = some traces ∧ runs = numbered test index traces := by
  refine ⟨exists_traces_of_runsFrom, ?_⟩
  rintro ⟨traces, htraces, rfl⟩
  induction results generalizing index traces with
  | nil =>
      cases htraces
      rfl
  | cons result results ih =>
      rw [tracesOf_cons] at htraces
      obtain ⟨trace, htrace, htail⟩ := Option.bind_eq_some_iff.mp htraces
      obtain ⟨rest, hrest, rfl⟩ := Option.map_eq_some_iff.mp htail
      rw [runsFrom_cons_of_trace htrace, ih rest hrest, numbered_cons]
      rfl

/-- **Otherwise the first result without a trace is named.** -/
theorem runsFrom_eq_error_iff :
    runsFrom test index results = .error e ↔
      ∃ i, FirstUntraced results i ∧
        e = .unexpected .test ("run " ++ (index + i).repr ++ " has no trace") := by
  induction results generalizing index with
  | nil =>
      constructor
      · rintro ⟨⟩
      · rintro ⟨i, ⟨⟨result, hresult, _⟩, _⟩, _⟩
        cases hresult
  | cons result results ih =>
      cases htrace : result.get? "trace" with
      | none =>
          have hbare : ¬ Traced result := not_traced_iff.mpr htrace
          rw [runsFrom, htrace]
          constructor
          · rintro ⟨⟩
            exact ⟨0, firstUntraced_zero.mpr hbare, rfl⟩
          · rintro ⟨i, hfirst, rfl⟩
            cases i with
            | zero => rfl
            | succ i => exact absurd (firstUntraced_succ.mp hfirst).1 hbare
      | some trace =>
          have htraced : Traced result := traced_iff.mpr ⟨trace, htrace⟩
          have hlater : runsFrom test index (result :: results) = .error e ↔
              runsFrom test (index + 1) results = .error e := by
            rw [runsFrom_cons_of_trace htrace]
            cases runsFrom test (index + 1) results with
            | ok rest =>
                constructor
                · rintro ⟨⟩
                · rintro ⟨⟩
            | error found => exact Iff.rfl
          rw [hlater, ih]
          constructor
          · rintro ⟨i, hfirst, rfl⟩
            refine ⟨i + 1, firstUntraced_succ.mpr ⟨htraced, hfirst⟩, ?_⟩
            rw [Nat.add_right_comm, Nat.add_assoc]
          · rintro ⟨i, hfirst, rfl⟩
            cases i with
            | zero => exact absurd htraced (firstUntraced_zero.mp hfirst)
            | succ i =>
                refine ⟨i, (firstUntraced_succ.mp hfirst).2, ?_⟩
                rw [Nat.add_right_comm, Nat.add_assoc]

/-! ## What an answer gives -/

/-- Whether an answer holds a list of results for a test. -/
def HoldsResults (answer : Json) (ref : TestRef) (results : List Json) : Prop :=
  answer.HoldsAt [ref.src, ref.test, "Test"] (.arr results)

theorem resultsOf_eq_some_iff :
    resultsOf answer ref = some results ↔ HoldsResults answer ref results := by
  simp only [resultsOf, HoldsResults, holdsAt_cons, holdsAt_nil, Option.bind_eq_bind,
    Option.bind_eq_some_iff, Json.items?_eq_some_iff]
  simp

theorem resultsOf_eq_none_iff :
    resultsOf answer ref = none ↔ ∀ results, ¬ HoldsResults answer ref results := by
  simp only [Option.eq_none_iff_forall_ne_some, ne_eq, resultsOf_eq_some_iff]

theorem testRuns_of_results (h : HoldsResults answer ref results) :
    testRuns answer ref =
      if results = [] then .error (.noRuns ref) else runsFrom ref.test 0 results := by
  rw [testRuns, resultsOf_eq_some_iff.mpr h]
  cases results <;> rfl

theorem testRuns_of_no_results (h : ∀ results, ¬ HoldsResults answer ref results) :
    testRuns answer ref =
      .error (.unexpected .test ("no Test results for " ++ ref.src ++ ":" ++ ref.test)) := by
  rw [testRuns, resultsOf_eq_none_iff.mpr h]

/-- **An answer gives runs where it holds results, each with a trace.** -/
theorem testRuns_eq_ok_iff :
    testRuns answer ref = .ok runs ↔
      ∃ results traces, HoldsResults answer ref results ∧ results ≠ [] ∧
        List.Forall₂ (fun result trace => result.HoldsAt ["trace"] trace) results traces ∧
        runs = numbered ref.test 0 traces := by
  simp only [← tracesOf_eq_some_iff]
  constructor
  · intro h
    obtain ⟨results, traces, hresults, htraces, hne, rfl⟩ := exists_traces_of_testRuns h
    refine ⟨results, traces, resultsOf_eq_some_iff.mp hresults, ?_, htraces, rfl⟩
    rintro rfl
    cases htraces
    exact hne rfl
  · rintro ⟨results, traces, hresults, hne, htraces, rfl⟩
    rw [testRuns_of_results hresults, if_neg hne]
    exact runsFrom_eq_ok_iff.mpr ⟨traces, htraces, rfl⟩

/-- **Otherwise the answer holds no results, an empty list of them, or one without a
trace.** -/
theorem testRuns_eq_error_iff :
    testRuns answer ref = .error e ↔
      HoldsResults answer ref [] ∧ e = .noRuns ref ∨
        (∃ results i, HoldsResults answer ref results ∧ FirstUntraced results i ∧
          e = .unexpected .test ("run " ++ i.repr ++ " has no trace")) ∨
        (∀ results, ¬ HoldsResults answer ref results) ∧
          e = .unexpected .test ("no Test results for " ++ ref.src ++ ":" ++ ref.test) := by
  constructor
  · intro h
    by_cases hsome : ∃ results, HoldsResults answer ref results
    · obtain ⟨results, hresults⟩ := hsome
      rw [testRuns_of_results hresults] at h
      split at h
      case isTrue hempty =>
        cases h
        exact Or.inl ⟨hempty ▸ hresults, rfl⟩
      case isFalse hne =>
        obtain ⟨i, hfirst, rfl⟩ := runsFrom_eq_error_iff.mp h
        exact Or.inr (Or.inl ⟨results, i, hresults, hfirst, by rw [Nat.zero_add]⟩)
    · rw [not_exists] at hsome
      rw [testRuns_of_no_results hsome] at h
      exact Or.inr (Or.inr ⟨hsome, (Except.error.inj h).symm⟩)
  · rintro (⟨hresults, rfl⟩ | ⟨results, i, hresults, hfirst, rfl⟩ | ⟨hno, rfl⟩)
    · rw [testRuns_of_results hresults, if_pos rfl]
    · have hne : results ≠ [] := by
        rintro rfl
        obtain ⟨_, hfound, _⟩ := hfirst.untraced
        cases hfound
      rw [testRuns_of_results hresults, if_neg hne, runsFrom_eq_error_iff]
      exact ⟨i, hfirst, by rw [Nat.zero_add]⟩
    · exact testRuns_of_no_results hno

/-- A run of a test has the name of the test in its label, and the number of the run. -/
theorem exists_label_of_mem (h : testRuns answer ref = .ok runs) {run : Run} (hrun : run ∈ runs) :
    ∃ i, run.label = runLabel ref.test i := by
  obtain ⟨_, traces, _, _, _, rfl⟩ := testRuns_eq_ok_iff.mp h
  obtain ⟨i, _, rfl⟩ := List.mem_mapIdx.mp hrun
  exact ⟨0 + i, rfl⟩

/-- **The runs of a test, all or none.**  An answer gives runs exactly if it holds a
list of results for the test, which is not empty and of which each has a trace.  There
are as many runs as results, the run of each number has the trace of the result of that
number and a label of its own.  An empty list is a test without runs, a result without
a trace is named by its number if it is the first one, and there may be no list at all.
Runs of tests with different names never have one label, whatever the answers are. -/
theorem runs_all_or_none (answer : Json) (ref : TestRef) :
    ((∃ runs, testRuns answer ref = .ok runs) ↔
        ∃ results, HoldsResults answer ref results ∧ results ≠ [] ∧
          ∀ result ∈ results, Traced result) ∧
      (∀ runs, testRuns answer ref = .ok runs →
        (∃ results, HoldsResults answer ref results ∧ runs.length = results.length ∧
          ∀ (i : Nat) (run : Run), runs[i]? = some run →
            run.label = ref.test ++ ":" ++ i.repr ∧
              ∃ result, results[i]? = some result ∧ result.HoldsAt ["trace"] run.trace) ∧
          (runs.map Run.label).Nodup) ∧
      (∀ e, testRuns answer ref = .error e ↔
        HoldsResults answer ref [] ∧ e = .noRuns ref ∨
          (∃ results i, HoldsResults answer ref results ∧ FirstUntraced results i ∧
            e = .unexpected .test ("run " ++ i.repr ++ " has no trace")) ∨
          (∀ results, ¬ HoldsResults answer ref results) ∧
            e = .unexpected .test ("no Test results for " ++ ref.src ++ ":" ++ ref.test)) ∧
      ∀ runs otherAnswer other otherRuns, testRuns answer ref = .ok runs →
        testRuns otherAnswer other = .ok otherRuns → ref.test ≠ other.test →
          ∀ run ∈ runs, ∀ otherRun ∈ otherRuns, run.label ≠ otherRun.label := by
  refine ⟨?all, fun runs hruns => ?each, fun e => testRuns_eq_error_iff, ?apart⟩
  case all =>
    simp only [testRuns_eq_ok_iff]
    constructor
    · rintro ⟨_, results, traces, hresults, hne, htraces, rfl⟩
      exact ⟨results, hresults, hne, (exists_forall₂_iff results).mp ⟨traces, htraces⟩⟩
    · rintro ⟨results, hresults, hne, htraced⟩
      obtain ⟨traces, htraces⟩ := (exists_forall₂_iff results).mpr htraced
      exact ⟨_, results, traces, hresults, hne, htraces, rfl⟩
  case each =>
    obtain ⟨results, traces, hresults, _, htraces, rfl⟩ := testRuns_eq_ok_iff.mp hruns
    have hlength : (numbered ref.test 0 traces).length = results.length := by
      rw [numbered, List.length_mapIdx, htraces.length_eq]
    refine ⟨⟨results, hresults, hlength, ?_⟩, nodup_labels_numbered ref.test traces⟩
    intro i run hrun
    rw [getElem?_numbered] at hrun
    obtain ⟨trace, htrace, rfl⟩ := Option.map_eq_some_iff.mp hrun
    obtain ⟨hi, rfl⟩ := List.getElem?_eq_some_iff.mp htrace
    have hi' : i < results.length := htraces.length_eq ▸ hi
    exact ⟨rfl, results[i], List.getElem?_eq_getElem hi', htraces.get hi' hi⟩
  case apart =>
    intro runs otherAnswer other otherRuns hruns hother hne run hrun otherRun hotherRun hlabel
    obtain ⟨i, hi⟩ := exists_label_of_mem hruns hrun
    obtain ⟨j, hj⟩ := exists_label_of_mem hother hotherRun
    rw [hi, hj] at hlabel
    exact hne (runLabel_inj.mp hlabel).1

/-- An answer with the results of one test. -/
def answerOf (ref : TestRef) (results : List Json) : Json :=
  .obj [(ref.src, .obj [(ref.test, .obj [("Test", .arr results)])])]

theorem runs_all_or_none_samples :
    ∃ runs otherRuns,
      testRuns (answerOf ⟨"s", "t"⟩ [.obj [("trace", .null)], .obj [("trace", .bool true)]])
          ⟨"s", "t"⟩ = .ok runs ∧
        testRuns (answerOf ⟨"s", "t:0"⟩ [.obj [("trace", .null)]]) ⟨"s", "t:0"⟩ = .ok otherRuns ∧
        (runs.map Run.label).Nodup ∧
        ∀ run ∈ runs, ∀ otherRun ∈ otherRuns, run.label ≠ otherRun.label := by
  have hruns : testRuns
      (answerOf ⟨"s", "t"⟩ [.obj [("trace", .null)], .obj [("trace", .bool true)]]) ⟨"s", "t"⟩ =
        .ok [⟨"t:0", .null⟩, ⟨"t:1", .bool true⟩] := rfl
  have hother : testRuns (answerOf ⟨"s", "t:0"⟩ [.obj [("trace", .null)]]) ⟨"s", "t:0"⟩ =
      .ok [⟨"t:0:0", .null⟩] := rfl
  obtain ⟨_, heach, _, hapart⟩ := runs_all_or_none
    (answerOf ⟨"s", "t"⟩ [.obj [("trace", .null)], .obj [("trace", .bool true)]]) ⟨"s", "t"⟩
  exact ⟨_, _, hruns, hother, (heach _ hruns).2, hapart _ _ _ _ hruns hother (by decide)⟩

end CallTree.Runner
