import CallTree.Proofs.Json.Reading
import CallTree.Proofs.Runner.Attempts
import CallTree.Proofs.Text.Numerals
import CallTree.Proofs.Text.Splitting
import CallTree.Runner.Client

/-!
# What the answers of the runner hold

An answer is a JSON value that was read, however often it was asked for, so the
traces inside of it are nested a few levels less than a text may be.  The runs of
a test bear its name and their numbers for labels, which are all different.

* `fits_of_fetch` — an answer fits;
* `exists_traces_of_testRuns` — the runs of a test are its traces, numbered;
* `runLabel_inj` — only runs of one name and one number have one label, and
  `nodup_labels_numbered` — no two runs of a test have;
* `fits_of_resultsOf`, `fits_of_tracesOf`, `fits_of_firstSimulation` — what counts
  in an answer that fits fits as well.
-/

namespace CallTree.Runner

open Json (Fits NumberInRange)

/-! ## Answers -/

theorem ok_of_retry {α σ : Type} {endpoint : String} {setting : Nat}
    {request : σ → Except String α × σ} {state : σ} {result : α}
    (h : (retry endpoint setting request state).1 = .ok result) :
    ∃ before, (request before).1 = .ok result := by
  unfold retry retryUpTo at h
  split at h
  · rename_i hattempts
    cases h
    exact ok_of_attemptFrom (congrArg Prod.fst hattempts)
  · cases h

/-- **An answer fits**: it is a JSON value that was read. -/
theorem fits_of_fetch {client : Client} {service : Service} {endpoint : Endpoint}
    {method : Method} {body : Option Json} {sent : List Request} {answer : Json}
    (h : (client.fetch service endpoint method body sent).1 = .ok answer) :
    Fits NumberInRange Json.maxLevels answer := by
  unfold Client.fetch at h
  split at h
  · cases h
  · rename_i target _
    have hretry : (retry endpoint.name client.maxAttempts
        (Client.exchange service target method body) sent).1 = .ok answer := by
      split at h
      · rename_i hretry
        rw [hretry]
        exact congrArg Except.ok (Except.ok.inj h)
      · cases h
    obtain ⟨before, hexchange⟩ := ok_of_retry hretry
    unfold Client.exchange at hexchange
    split at hexchange
    · unfold Client.readReply at hexchange
      grind [Json.fits_of_read]
    · cases hexchange

/-- A call whose answer is read gives what the answer holds. -/
theorem reading_eq_ok {α : Type} {call : Session Json} {read : Json → Except ResponseError α}
    {result : α} {sent after : List Request} :
    Client.reading call read sent = (.ok result, after) ↔
      ∃ answer, call sent = (.ok answer, after) ∧ read answer = .ok result := by
  unfold Client.reading Client.andThen
  cases hcall : call sent with
  | mk answered between =>
      cases answered with
      | error e => simp
      | ok answer =>
          cases hread : read answer <;> simp [hread, and_comm]

/-! ## Runs of a test -/

/-- A label is cut at its last colon, since no number holds one. -/
theorem splitLast_runLabel (test : String) (i : Nat) :
    Text.splitLast ':' (runLabel test i).toList = some (test.toList, Nat.toDigits 10 i) := by
  have hlabel : (runLabel test i).toList = test.toList ++ ':' :: Nat.toDigits 10 i := by
    simp [runLabel, Nat.repr_eq_ofList_toDigits]
  rw [hlabel]
  exact Text.splitLast_append _ (Text.notMem_toDigits (by decide) (by decide) rfl)

/-- **A label tells the name of the test and the number of the run**, whatever the
name is. -/
theorem runLabel_inj {test other : String} {i j : Nat} :
    runLabel test i = runLabel other j ↔ test = other ∧ i = j := by
  constructor
  · intro h
    have hparts := splitLast_runLabel test i
    rw [h, splitLast_runLabel, Option.some.injEq, Prod.mk.injEq] at hparts
    exact ⟨(String.toList_inj.mp hparts.1).symm,
      (Text.toDigits_injective (by decide) (by decide) hparts.2).symm⟩
  · rintro ⟨rfl, rfl⟩
    rfl

/-- Traces as the runs of a test. -/
def numbered (test : String) (index : Nat) (traces : List Json) : List Run :=
  traces.mapIdx fun i trace => ⟨runLabel test (index + i), trace⟩

theorem numbered_cons (test : String) (index : Nat) (trace : Json) (traces : List Json) :
    numbered test index (trace :: traces) =
      ⟨runLabel test index, trace⟩ :: numbered test (index + 1) traces := by
  simp only [numbered, List.mapIdx_cons, Nat.add_zero, Nat.add_assoc, Nat.add_comm 1]

/-- A run is its trace under the label of its number. -/
theorem getElem?_numbered (test : String) (traces : List Json) (i : Nat) :
    (numbered test 0 traces)[i]? = (traces[i]?).map fun trace => ⟨runLabel test i, trace⟩ := by
  rw [numbered, List.getElem?_mapIdx, Nat.zero_add]

/-- The last run is the last trace. -/
theorem getLast?_numbered {test : String} {traces : List Json} {last : Json}
    (h : traces.getLast? = some last) :
    (numbered test 0 traces).getLast? = some ⟨runLabel test (traces.length - 1), last⟩ := by
  rw [numbered, List.getLast?_mapIdx, h, Nat.zero_add]
  rfl

/-- The traces of runs that fit. -/
theorem fits_numbered {test : String} {levels : Nat} {traces : List Json}
    (hfits : ∀ trace ∈ traces, Fits NumberInRange levels trace) :
    ∀ run ∈ numbered test 0 traces, Fits NumberInRange levels run.trace := by
  intro run hmem
  obtain ⟨i, hi, rfl⟩ := List.mem_mapIdx.mp hmem
  exact hfits _ (List.getElem_mem hi)

/-- No two runs have one label. -/
theorem nodup_labels_numbered (test : String) (traces : List Json) :
    ((numbered test 0 traces).map Run.label).Nodup := by
  have hlabels (index : Nat) : (numbered test index traces).map Run.label =
      (List.range' index traces.length).map (runLabel test) := by
    induction traces generalizing index with
    | nil => rfl
    | cons trace traces ih =>
        rw [numbered_cons, List.map_cons, ih, List.length_cons, List.range'_succ, List.map_cons]
  rw [hlabels]
  exact (List.nodup_range' 1).map fun _ _ h => (runLabel_inj.mp h).2

/-- The traces of results, where each has one. -/
def tracesOf (results : List Json) : Option (List Json) :=
  results.mapM (Json.get? "trace")

theorem tracesOf_cons (result : Json) (results : List Json) :
    tracesOf (result :: results) =
      (result.get? "trace").bind fun trace => (tracesOf results).map (trace :: ·) := by
  simp only [tracesOf, List.mapM_cons, Option.bind_eq_bind, Option.map_eq_bind]
  rfl

/-- **The runs that a list of results writes** are its traces, numbered. -/
theorem exists_traces_of_runsFrom {test : String} {index : Nat} {results : List Json}
    {runs : List Run} (h : runsFrom test index results = .ok runs) :
    ∃ traces, tracesOf results = some traces ∧ runs = numbered test index traces := by
  induction results generalizing index runs with
  | nil =>
      cases h
      exact ⟨[], rfl, rfl⟩
  | cons result results ih =>
      rw [runsFrom] at h
      cases htrace : result.get? "trace" with
      | none =>
          rw [htrace] at h
          cases h
      | some trace =>
          rw [htrace] at h
          cases hrest : runsFrom test (index + 1) results with
          | error e =>
              rw [hrest] at h
              cases h
          | ok rest =>
              rw [hrest] at h
              cases h
              obtain ⟨traces, htraces, rfl⟩ := ih hrest
              refine ⟨trace :: traces, ?_, (numbered_cons test index trace traces).symm⟩
              rw [tracesOf_cons, htrace, htraces]
              rfl

/-- The runs in an answer are the traces of its results, of which there is at
least one. -/
theorem exists_traces_of_testRuns {answer : Json} {ref : TestRef} {runs : List Run}
    (h : testRuns answer ref = .ok runs) :
    ∃ results traces, resultsOf answer ref = some results ∧ tracesOf results = some traces ∧
      traces ≠ [] ∧ runs = numbered ref.test 0 traces := by
  unfold testRuns at h
  split at h
  · cases h
  · cases h
  · rename_i results hempty hresults
    obtain ⟨traces, htraces, rfl⟩ := exists_traces_of_runsFrom h
    refine ⟨results, traces, hresults, htraces, ?_, rfl⟩
    rintro rfl
    cases results with
    | nil => exact hempty rfl
    | cons result results =>
        rw [tracesOf_cons] at htraces
        obtain ⟨trace, -, hrest⟩ := Option.bind_eq_some_iff.mp htraces
        obtain ⟨traces, -, hcons⟩ := Option.map_eq_some_iff.mp hrest
        cases hcons

/-- The results of a test in an answer that fits fit well inside of it. -/
theorem fits_of_resultsOf {levels : Nat} {answer : Json} {ref : TestRef} {results : List Json}
    (hfits : Fits NumberInRange levels answer) (h : resultsOf answer ref = some results) :
    ∀ result ∈ results, Fits NumberInRange (levels - 1 - 1 - 1 - 1) result := by
  obtain ⟨tests, htests, h⟩ := Option.bind_eq_some_iff.mp h
  obtain ⟨result, hresult, h⟩ := Option.bind_eq_some_iff.mp h
  obtain ⟨items, hitems, h⟩ := Option.bind_eq_some_iff.mp h
  exact (((hfits.get? htests).get? hresult).get? hitems).items? h

/-- The traces of results that fit fit. -/
theorem fits_of_tracesOf {levels : Nat} {results traces : List Json}
    (hfits : ∀ result ∈ results, Fits NumberInRange levels result)
    (htraces : tracesOf results = some traces) :
    ∀ trace ∈ traces, Fits NumberInRange (levels - 1) trace := by
  induction results generalizing traces with
  | nil =>
      cases htraces
      exact nofun
  | cons result results ih =>
      obtain ⟨hresult, hfits⟩ := List.forall_mem_cons.mp hfits
      rw [tracesOf_cons] at htraces
      obtain ⟨trace, htrace, htail⟩ := Option.bind_eq_some_iff.mp htraces
      obtain ⟨rest, hrest, rfl⟩ := Option.map_eq_some_iff.mp htail
      exact List.forall_mem_cons.mpr ⟨hresult.get? htrace, ih hfits hrest⟩

/-! ## Simulations -/

/-- The first simulation in an answer. -/
def firstSimulation (answer : Json) : Option Json :=
  match openEnvelope .simulation answer with
  | .ok result =>
      match (result.get? "Sim").bind Json.items? with
      | some (first :: _) => some first
      | _ => none
  | .error _ => none

/-- The label of a simulation: its hash, empty where there is none or it is no
text. -/
def hashLabel (simulated : Json) : String :=
  ((simulated.get? "hash").bind Json.text?).getD ""

/-- The run in an answer is its first simulation. -/
theorem exists_first_of_simulation {answer : Json} {run : Run}
    (h : simulation answer = .ok run) :
    ∃ simulated, firstSimulation answer = some simulated ∧
      simulated.get? "trace" = some run.trace ∧ run.label = hashLabel simulated := by
  unfold simulation at h
  cases hopen : openEnvelope .simulation answer with
  | error e =>
      rw [hopen] at h
      cases h
  | ok result =>
      rw [hopen] at h
      simp only [bind, Except.bind] at h
      split at h
      · rename_i first more hfirst
        split at h
        · rename_i trace htrace
          cases h
          refine ⟨first, ?_, htrace, rfl⟩
          simp only [firstSimulation, hopen, hfirst]
        · cases h
      · cases h

/-- What an envelope holds fits where the envelope does. -/
theorem fits_of_openEnvelope {levels : Nat} {endpoint : Endpoint} {answer result : Json}
    (hfits : Fits NumberInRange levels answer) (h : openEnvelope endpoint answer = .ok result) :
    Fits NumberInRange (levels - 1) result := by
  unfold openEnvelope at h
  split at h
  · rename_i fields
    split at h
    · rename_i hlookup
      cases h
      have hget : (Json.obj fields).get? "Ok" = some result := hlookup
      exact hfits.get? hget
    · cases h
    · cases h
  · cases h

/-- The first simulation in an answer that fits fits inside of it. -/
theorem fits_of_firstSimulation {levels : Nat} {answer simulated : Json}
    (hfits : Fits NumberInRange levels answer) (h : firstSimulation answer = some simulated) :
    Fits NumberInRange (levels - 1 - 1 - 1) simulated := by
  unfold firstSimulation at h
  split at h
  · rename_i result hopen
    split at h
    · rename_i first more hfirst
      cases h
      obtain ⟨items, hitems, hfirst⟩ := Option.bind_eq_some_iff.mp hfirst
      exact ((fits_of_openEnvelope hfits hopen).get? hitems).items? hfirst simulated
        List.mem_cons_self
    · cases h
  · cases h

end CallTree.Runner
