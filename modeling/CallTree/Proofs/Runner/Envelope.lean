import CallTree.Proofs.Frame.Form
import CallTree.Proofs.Json.Place
import CallTree.Proofs.Runner.Answers

/-!
# Answers in an envelope

A listing and a simulation come in an envelope.  What stands under `Ok` is read, and
counts whatever else there is; without it an error under `Err` is reported as such, and
everything else is unexpected.  What is read under `Ok` can only be unexpected itself,
so the envelope alone decides which answers are rejected.

A listing is read exactly if it is a table, an object with nothing but lists of texts,
and a simulation exactly if the first of several has a trace.

* `enveloped_eq_ok_iff`, `failsAs_enveloped` — what is read in an envelope, and the
  errors;
* `ofJson_eq_ok_iff` — tables are read back;
* `listing_eq_ok_iff`, `simulation_eq_ok_iff` — what is read from an answer;
* `answers_classified` — all answers, and the keys that count in them.
-/

namespace CallTree.Runner

open Json (holdsAt_cons holdsAt_nil holdsAt_singleton pick)

variable {answer : Json} {endpoint : Endpoint} {message : String}

/-! ## Envelopes -/

/-- Whether an answer reports an error with a message: a text under `Err`, or the
compact form of what else stands there.  A result under `Ok` counts before it. -/
inductive Rejects : (answer : Json) → (message : String) → Prop
  | text {fields : List (String × Json)} {message : String}
      (noResult : fields.lookup "Ok" = none) (found : fields.lookup "Err" = some (.str message)) :
      Rejects (.obj fields) message
  | other {fields : List (String × Json)} {error : Json} (noResult : fields.lookup "Ok" = none)
      (found : fields.lookup "Err" = some error) (noText : ∀ text, error ≠ .str text) :
      Rejects (.obj fields) error.compact

/-- How an outcome fails for an answer: with the error that the answer reports, or else
with one of the outcome's own. -/
structure FailsAs {α : Type} (endpoint : Endpoint) (answer : Json)
    (outcome : Except ResponseError α) : Prop where
  rejected : ∀ place message, outcome = .error (.rejected place message) ↔
    place = endpoint ∧ Rejects answer message
  unexpected : (∃ reason, outcome = .error (.unexpected endpoint reason)) ↔
    (∀ found, outcome ≠ .ok found) ∧ ∀ message, ¬ Rejects answer message

theorem rejects_iff :
    Rejects answer message ↔
      answer.get? "Ok" = none ∧
        ∃ error, answer.get? "Err" = some error ∧ message = error.bareText := by
  constructor
  · intro h
    cases h with
    | text noResult found => exact ⟨noResult, _, found, rfl⟩
    | @other _ error noResult found noText =>
        refine ⟨noResult, error, found, ?_⟩
        cases error with
        | str text => exact absurd rfl (noText text)
        | _ => rfl
  · rintro ⟨noResult, error, found, rfl⟩
    cases answer with
    | obj fields =>
        cases error with
        | str text => exact .text noResult found
        | _ => exact .other noResult found nofun
    | _ => cases found

section Enveloped

variable {α : Type} {read : Json → Except ResponseError α}

/-- Reads what an envelope holds. -/
def enveloped (endpoint : Endpoint) (read : Json → Except ResponseError α) (answer : Json) :
    Except ResponseError α :=
  (openEnvelope endpoint answer).bind read

theorem enveloped_of_result {result : Json} (h : answer.get? "Ok" = some result) :
    enveloped endpoint read answer = read result := by
  cases answer with
  | obj fields =>
      have hresult : fields.lookup "Ok" = some result := h
      simp only [enveloped, openEnvelope, hresult]
      rfl
  | _ => cases h

theorem enveloped_of_rejects (h : Rejects answer message) :
    enveloped endpoint read answer = .error (.rejected endpoint message) := by
  obtain ⟨hno, error, herror, rfl⟩ := rejects_iff.mp h
  cases answer with
  | obj fields =>
      have hno : fields.lookup "Ok" = none := hno
      have herror : fields.lookup "Err" = some error := herror
      simp only [enveloped, openEnvelope, hno, herror]
      rfl
  | _ => cases herror

/-- Without a result and an error an envelope is unexpected. -/
theorem exists_enveloped_eq (hno : answer.get? "Ok" = none)
    (haccepted : ∀ message, ¬ Rejects answer message) :
    ∃ reason, enveloped endpoint read answer = .error (.unexpected endpoint reason) := by
  cases answer with
  | obj fields =>
      have hno : fields.lookup "Ok" = none := hno
      cases herror : fields.lookup "Err" with
      | some error =>
          have hrejects : Rejects (.obj fields) error.bareText :=
            rejects_iff.mpr ⟨hno, error, herror, rfl⟩
          exact absurd hrejects (haccepted _)
      | none =>
          simp only [enveloped, openEnvelope, hno, herror]
          exact ⟨_, rfl⟩
  | _ => exact ⟨_, rfl⟩

/-- **What is read in an envelope stands under `Ok`.** -/
theorem enveloped_eq_ok_iff {found : α} :
    enveloped endpoint read answer = .ok found ↔
      ∃ result, answer.get? "Ok" = some result ∧ read result = .ok found := by
  cases hresult : answer.get? "Ok" with
  | some result =>
      rw [enveloped_of_result hresult]
      simp
  | none =>
      constructor
      · intro h
        by_cases hrejects : ∃ message, Rejects answer message
        · obtain ⟨message, hrejects⟩ := hrejects
          rw [enveloped_of_rejects hrejects] at h
          cases h
        · rw [not_exists] at hrejects
          obtain ⟨reason, hreason⟩ := exists_enveloped_eq hresult hrejects
          rw [hreason] at h
          cases h
      · rintro ⟨result, hsome, _⟩
        cases hsome

/-- An answer reports one error at most. -/
theorem Rejects.unique {other : String} (h : Rejects answer message) (h' : Rejects answer other) :
    other = message := by
  obtain ⟨_, error, herror, rfl⟩ := rejects_iff.mp h
  obtain ⟨_, _, herror', rfl⟩ := rejects_iff.mp h'
  rw [herror] at herror'
  cases herror'
  rfl

/-- What is unexpected fails as it should for an answer that reports no error. -/
theorem FailsAs.of_unexpected (reason : String) (haccepted : ∀ message, ¬ Rejects answer message) :
    FailsAs endpoint answer (.error (.unexpected endpoint reason) : Except ResponseError α) where
  rejected _ message := ⟨nofun, fun h => absurd h.2 (haccepted message)⟩
  unexpected := ⟨fun _ => ⟨nofun, haccepted⟩, fun _ => ⟨reason, rfl⟩⟩

/-- **The envelope alone decides which answers are rejected**, where what it holds can
only be unexpected. -/
theorem failsAs_enveloped (answer : Json)
    (hread : ∀ result e, read result = .error e → ∃ reason, e = .unexpected endpoint reason) :
    FailsAs endpoint answer (enveloped endpoint read answer) := by
  cases hresult : answer.get? "Ok" with
  | some result =>
      have haccepted (message : String) : ¬ Rejects answer message := by
        intro hrejects
        have hno := (rejects_iff.mp hrejects).1
        rw [hresult] at hno
        cases hno
      rw [enveloped_of_result hresult]
      cases hfound : read result with
      | ok found =>
          constructor
          case rejected => exact fun _ message => ⟨nofun, fun h => absurd h.2 (haccepted message)⟩
          case unexpected => exact ⟨nofun, fun h => absurd rfl (h.1 found)⟩
      | error e =>
          obtain ⟨reason, rfl⟩ := hread result e hfound
          exact .of_unexpected reason haccepted
  | none =>
      by_cases hrejects : ∃ message, Rejects answer message
      · obtain ⟨message, hrejects⟩ := hrejects
        rw [enveloped_of_rejects hrejects]
        constructor
        case rejected =>
          intro place other
          constructor
          · rintro ⟨⟩
            exact ⟨rfl, hrejects⟩
          · rintro ⟨rfl, hother⟩
            rw [hrejects.unique hother]
        case unexpected => exact ⟨nofun, fun h => absurd hrejects (h.2 message)⟩
      · rw [not_exists] at hrejects
        obtain ⟨reason, hreason⟩ : ∃ reason, enveloped endpoint read answer =
            .error (.unexpected endpoint reason) := exists_enveloped_eq hresult hrejects
        rw [hreason]
        exact .of_unexpected reason hrejects

end Enveloped

/-! ## Listings -/

/-- The JSON value of a table of texts. -/
def tableOf (entries : List (String × List String)) : Json :=
  .obj (entries.map fun entry => (entry.1, .arr (entry.2.map .str)))

/-- A table is sorted as its keys are, since there is no object inside of a list of
texts. -/
theorem sorted_tableOf_iff {entries : List (String × List String)} :
    (tableOf entries).Sorted ↔ (KeyMap.keysOf entries).Pairwise (· < ·) := by
  have hkeys : KeyMap.keysOf (entries.map fun entry => (entry.1, Json.arr (entry.2.map .str))) =
      KeyMap.keysOf entries :=
    KeyMap.keysOf_map_values (fun _ names => Json.arr (names.map .str)) entries
  constructor
  · intro h
    cases h with
    | obj increasing _ => rwa [hkeys] at increasing
  · intro h
    refine .obj (hkeys ▸ h) ?_
    intro field hfield
    obtain ⟨entry, _, rfl⟩ := List.mem_map.mp hfield
    refine .arr fun item hitem => ?_
    obtain ⟨name, _, rfl⟩ := List.mem_map.mp hitem
    exact .str name

theorem asTexts_eq_ok_iff {j : Json} {names : List String} :
    j.asTexts = .ok names ↔ j = .arr (names.map .str) := by
  have htext (item : Json) (name : String) : item.asText = .ok name ↔ item = .str name := by
    cases item <;> simp [Json.asText]
  cases j with
  | arr items =>
      have hitems : Json.asTexts (.arr items) = items.mapM Json.asText := rfl
      rw [hitems, mapM_eq_ok_iff, Json.arr.injEq]
      simp only [htext]
      rw [← List.forall₂_map_right_iff, List.forall₂_eq_eq_eq]
  | _ => exact ⟨nofun, nofun⟩

/-- What one entry of a table is read from. -/
def readEntry (field : String × Json) : Except ShapeError (String × List String) := do
  pure (field.1, ← field.2.asTexts)

theorem readEntry_eq_ok_iff {field : String × Json} {entry : String × List String} :
    readEntry field = .ok entry ↔ field = (entry.1, .arr (entry.2.map .str)) := by
  obtain ⟨key, value⟩ := field
  obtain ⟨src, names⟩ := entry
  rw [Prod.mk.injEq, ← asTexts_eq_ok_iff, readEntry]
  cases value.asTexts with
  | error e => exact ⟨nofun, nofun⟩
  | ok found => simp [bind, Except.bind, pure, Except.pure]

/-- **Tables are read back**; of two entries with one key the later one counts. -/
theorem ofJson_eq_ok_iff {j : Json} {c : Catalog} :
    Catalog.ofJson j = .ok c ↔ ∃ entries, j = tableOf entries ∧ c = ⟨KeyMap.ofList entries⟩ := by
  cases j with
  | obj fields =>
      have hread : Catalog.ofJson (.obj fields) =
          (do let entries ← fields.mapM readEntry; pure ⟨KeyMap.ofList entries⟩) := rfl
      have htable (entries : List (String × List String)) :
          fields.mapM readEntry = .ok entries ↔ Json.obj fields = tableOf entries := by
        rw [mapM_eq_ok_iff, tableOf, Json.obj.injEq]
        simp only [readEntry_eq_ok_iff]
        rw [← List.forall₂_map_right_iff, List.forall₂_eq_eq_eq]
      simp only [← htable, hread]
      cases fields.mapM readEntry with
      | error e => simp [bind, Except.bind]
      | ok entries => simp [bind, Except.bind, pure, Except.pure, eq_comm]
  | _ =>
      constructor
      · rintro ⟨⟩
      · rintro ⟨_, ⟨⟩, _⟩

/-- What a listing is read from. -/
def readListing (result : Json) : Except ResponseError Catalog :=
  match result.get? "Tests" with
  | some tests => (Catalog.ofJson tests).mapError fun e => .unexpected .tests e.message
  | none => .error (.unexpected .tests "missing Tests")

theorem listing_eq (answer : Json) : listing answer = enveloped .tests readListing answer := rfl

theorem readListing_eq_ok_iff {result : Json} {c : Catalog} :
    readListing result = .ok c ↔
      ∃ entries, result.get? "Tests" = some (tableOf entries) ∧ c = ⟨KeyMap.ofList entries⟩ := by
  rw [readListing]
  cases result.get? "Tests" with
  | none => exact ⟨nofun, nofun⟩
  | some tests =>
      have hmap : ((Catalog.ofJson tests).mapError fun e =>
          ResponseError.unexpected .tests e.message) = .ok c ↔ Catalog.ofJson tests = .ok c := by
        cases Catalog.ofJson tests <;> simp [Except.mapError]
      dsimp only
      rw [hmap, ofJson_eq_ok_iff]
      simp only [Option.some.injEq]

theorem unexpected_of_readListing (result : Json) (e : ResponseError)
    (h : readListing result = .error e) : ∃ reason, e = .unexpected .tests reason := by
  rw [readListing] at h
  cases htests : result.get? "Tests" with
  | none =>
      rw [htests] at h
      cases h
      exact ⟨_, rfl⟩
  | some tests =>
      rw [htests] at h
      dsimp only at h
      cases hread : Catalog.ofJson tests with
      | ok c =>
          rw [hread] at h
          cases h
      | error found =>
          rw [hread] at h
          cases h
          exact ⟨_, rfl⟩

/-- **A listing is read where an answer holds a table.** -/
theorem listing_eq_ok_iff {c : Catalog} :
    listing answer = .ok c ↔
      ∃ entries, answer.HoldsAt ["Ok", "Tests"] (tableOf entries) ∧
        c = ⟨KeyMap.ofList entries⟩ := by
  simp only [listing_eq, enveloped_eq_ok_iff, readListing_eq_ok_iff, holdsAt_cons,
    holdsAt_nil]
  constructor
  · rintro ⟨result, hresult, entries, htests, rfl⟩
    exact ⟨entries, ⟨result, hresult, _, htests, rfl⟩, rfl⟩
  · rintro ⟨entries, ⟨result, hresult, _, htests, rfl⟩, rfl⟩
    exact ⟨result, hresult, entries, htests, rfl⟩

/-- A table with sorted keys lists the entries of its map. -/
theorem entries_ofList_of_sorted {entries : List (String × List String)}
    (h : (tableOf entries).Sorted) : (KeyMap.ofList entries).entries = entries := by
  rw [KeyMap.ofList_eq_foldl,
    KeyMap.foldl_insertEntry_of_increasing entries (sorted_tableOf_iff.mp h)]

/-- In an answer that lists every key once and in order the table is the catalog,
entry by entry. -/
theorem listing_eq_ok_iff_of_sorted {c : Catalog} (hsorted : answer.Sorted) :
    listing answer = .ok c ↔ answer.HoldsAt ["Ok", "Tests"] (tableOf c.tests.entries) := by
  rw [listing_eq_ok_iff]
  constructor
  · rintro ⟨entries, htable, rfl⟩
    rwa [entries_ofList_of_sorted (htable.sorted hsorted)]
  · intro htable
    exact ⟨c.tests.entries, htable, by rw [KeyMap.ofList_entries]⟩

/-! ## Simulations -/

/-- What a simulation is read from. -/
def readSimulation (result : Json) : Except ResponseError Run :=
  match (result.get? "Sim").bind Json.items? with
  | some (first :: _) =>
      match first.get? "trace" with
      | some trace => pure ⟨hashLabel first, trace⟩
      | none => .error (.unexpected .simulation "simulation has no trace")
  | _ => .error (.unexpected .simulation "missing Sim results")

theorem simulation_eq (answer : Json) :
    simulation answer = enveloped .simulation readSimulation answer := rfl

theorem readSimulation_eq_ok_iff {result : Json} {run : Run} :
    readSimulation result = .ok run ↔
      ∃ first others, result.get? "Sim" = some (.arr (first :: others)) ∧
        first.get? "trace" = some run.trace ∧ run.label = hashLabel first := by
  have hsome (items : List Json) :
      (result.get? "Sim").bind Json.items? = some items ↔
        result.get? "Sim" = some (.arr items) := by
    simp [Option.bind_eq_some_iff, Json.items?_eq_some_iff]
  rw [readSimulation]
  split
  · rename_i first others hfirst
    rw [hsome] at hfirst
    cases htrace : first.get? "trace" with
    | none =>
        constructor
        · rintro ⟨⟩
        · rintro ⟨_, _, hother, hfound, _⟩
          rw [hfirst] at hother
          cases hother
          rw [htrace] at hfound
          cases hfound
    | some trace =>
        constructor
        · rintro ⟨⟩
          exact ⟨first, others, hfirst, htrace, rfl⟩
        · rintro ⟨_, _, hother, hfound, hlabel⟩
          rw [hfirst] at hother
          cases hother
          rw [htrace] at hfound
          cases hfound
          rw [← hlabel]
          rfl
  · rename_i hnone
    constructor
    · rintro ⟨⟩
    · rintro ⟨first, others, hfirst, _⟩
      exact absurd ((hsome _).mpr hfirst) (hnone first others)

theorem unexpected_of_readSimulation (result : Json) (e : ResponseError)
    (h : readSimulation result = .error e) : ∃ reason, e = .unexpected .simulation reason := by
  rw [readSimulation] at h
  split at h
  · split at h
    · cases h
    · cases h
      exact ⟨_, rfl⟩
  · cases h
    exact ⟨_, rfl⟩

/-- **A simulation is read where an answer holds several of which the first has a
trace.** -/
theorem simulation_eq_ok_iff {run : Run} :
    simulation answer = .ok run ↔
      ∃ first others, answer.HoldsAt ["Ok", "Sim"] (.arr (first :: others)) ∧
        first.HoldsAt ["trace"] run.trace ∧ run.label = hashLabel first := by
  simp only [simulation_eq, enveloped_eq_ok_iff, readSimulation_eq_ok_iff, holdsAt_cons,
    holdsAt_nil]
  constructor
  · rintro ⟨result, hresult, first, others, hsim, htrace, hlabel⟩
    exact ⟨first, others, ⟨result, hresult, _, hsim, rfl⟩, ⟨_, htrace, rfl⟩, hlabel⟩
  · rintro ⟨first, others, ⟨result, hresult, _, hsim, rfl⟩, ⟨_, htrace, rfl⟩, hlabel⟩
    exact ⟨result, hresult, first, others, hsim, htrace, hlabel⟩

/-! ## Keys that count -/

/-- A list with its items changed; any other value as it is. -/
def mapItems (change : Json → Json) : Json → Json
  | .arr items => .arr (items.map change)
  | other => other

/-- What counts of an answer to a request for all tests. -/
def listingCore : Json → Json :=
  pick [("Ok", pick [("Tests", id)]), ("Err", id)]

/-- What counts of an answer to a simulation, if some keys do in what was simulated. -/
def simulationCore (counting : List String) : Json → Json :=
  pick [("Ok", pick [("Sim", mapItems (pick (counting.map fun key => (key, id))))]), ("Err", id)]

/-- An envelope is opened as the part of it that counts, where only that part of its
result is read. -/
theorem enveloped_pick {α : Type} {read : Json → Except ResponseError α} {change : Json → Json}
    (hread : ∀ result, read (change result) = read result) (answer : Json) :
    enveloped endpoint read (pick [("Ok", change), ("Err", id)] answer) =
      enveloped endpoint read answer := by
  have hok : (pick [("Ok", change), ("Err", id)] answer).get? "Ok" =
      (answer.get? "Ok").map change := Json.get?_pick rfl answer
  have herror : (pick [("Ok", change), ("Err", id)] answer).get? "Err" = answer.get? "Err" := by
    rw [Json.get?_pick rfl answer, Option.map_id]
    rfl
  cases answer with
  | obj fields =>
      simp only [pick, Json.get?] at hok herror
      simp only [enveloped, openEnvelope, pick, hok, herror]
      cases fields.lookup "Ok" with
      | some result => exact hread result
      | none => rfl
  | _ => rfl

theorem listing_listingCore (answer : Json) : listing (listingCore answer) = listing answer := by
  rw [listing_eq, listing_eq]
  apply enveloped_pick
  intro result
  rw [readListing, Json.get?_pick rfl, Option.map_id]
  rfl

theorem enveloped_map {α β : Type} (read : Json → Except ResponseError α) (f : α → β) :
    enveloped endpoint (fun result => (read result).map f) answer =
      (enveloped endpoint read answer).map f := by
  rw [enveloped, enveloped]
  cases openEnvelope endpoint answer <;> rfl

/-- What is made of a simulation counts no more of it than its trace and what of its hash
is used. -/
theorem simulation_simulationCore {β : Type} {counting : List String} {f : Run → β}
    (htrace : (counting.map fun key => (key, (id : Json → Json))).lookup "trace" = some id)
    (hhash : ∀ simulated trace,
      f ⟨hashLabel (pick (counting.map fun key => (key, id)) simulated), trace⟩ =
        f ⟨hashLabel simulated, trace⟩) (answer : Json) :
    (simulation (simulationCore counting answer)).map f = (simulation answer).map f := by
  rw [simulation_eq, simulation_eq, ← enveloped_map, ← enveloped_map]
  apply enveloped_pick
  intro result
  rw [readSimulation, readSimulation, Json.get?_pick rfl]
  cases result.get? "Sim" with
  | none => rfl
  | some simulations =>
      cases simulations with
      | arr items =>
          cases items with
          | nil => rfl
          | cons first others =>
              simp only [Option.map_some, Option.bind_some, mapItems, Json.items?, List.map_cons,
                Json.get?_pick htrace, Option.map_id, id]
              cases first.get? "trace" with
              | none => rfl
              | some trace => exact congrArg Except.ok (hhash first trace)
      | _ => rfl

/-- The hash counts for the label of the run and for nothing else. -/
theorem map_trace_simulationCore (answer : Json) :
    (simulation (simulationCore ["trace"] answer)).map Run.trace =
      (simulation answer).map Run.trace :=
  simulation_simulationCore rfl (fun _ _ => rfl) answer

theorem simulation_simulationCore_hash (answer : Json) :
    simulation (simulationCore ["trace", "hash"] answer) = simulation answer := by
  have hlabel (simulated : Json) :
      hashLabel (pick [("trace", id), ("hash", id)] simulated) = hashLabel simulated := by
    rw [hashLabel, Json.get?_pick rfl, Option.map_id]
    rfl
  have hsame : (simulation (simulationCore ["trace", "hash"] answer)).map id =
      (simulation answer).map id :=
    simulation_simulationCore rfl
      (fun simulated trace => congrArg (Run.mk · trace) (hlabel simulated)) answer
  rwa [Except.map_id] at hsame

/-- **All answers in an envelope.**  A listing is read exactly if the answer holds a
table below `Ok` and `Tests`, and gives the map of the table; an answer that lists each
key once and in order holds the entries of the map.  A simulation is read exactly if
the answer holds several below `Ok` and `Sim` of which the first has a trace.  Both are
rejected exactly if the answer reports an error and no result, with its message, and
are unexpected in all other cases.  Other keys do not count, neither beside these nor
inside of what they hold; the hash of what was simulated counts for the label of its run
and for nothing else. -/
theorem answers_classified (answer : Json) :
    (∀ c, listing answer = .ok c ↔
        ∃ entries, answer.HoldsAt ["Ok", "Tests"] (tableOf entries) ∧
          c = ⟨KeyMap.ofList entries⟩) ∧
      (answer.Sorted → ∀ c, listing answer = .ok c ↔
        answer.HoldsAt ["Ok", "Tests"] (tableOf c.tests.entries)) ∧
      (∀ tests, listing (.obj [("Ok", .obj [("Tests", tableOf tests.entries)])]) = .ok ⟨tests⟩) ∧
      (∀ run, simulation answer = .ok run ↔
        ∃ first others, answer.HoldsAt ["Ok", "Sim"] (.arr (first :: others)) ∧
          first.HoldsAt ["trace"] run.trace ∧ run.label = hashLabel first) ∧
      FailsAs .tests answer (listing answer) ∧
      FailsAs .simulation answer (simulation answer) ∧
      listing (listingCore answer) = listing answer ∧
      (simulation (simulationCore ["trace"] answer)).map Run.trace =
        (simulation answer).map Run.trace ∧
      simulation (simulationCore ["trace", "hash"] answer) = simulation answer := by
  refine ⟨fun _ => listing_eq_ok_iff, fun hsorted _ => listing_eq_ok_iff_of_sorted hsorted,
    fun tests => ?written, fun _ => simulation_eq_ok_iff,
    failsAs_enveloped answer unexpected_of_readListing,
    failsAs_enveloped answer unexpected_of_readSimulation, listing_listingCore answer,
    map_trace_simulationCore answer, simulation_simulationCore_hash answer⟩
  case written =>
    have hplace : (Json.obj [("Ok", .obj [("Tests", tableOf tests.entries)])]).HoldsAt
        ["Ok", "Tests"] (tableOf tests.entries) := .field rfl (.field rfl (.here _))
    exact listing_eq_ok_iff.mpr ⟨tests.entries, hplace, by rw [KeyMap.ofList_entries]⟩

/-- The tests of two sources. -/
def sampleTests : KeyMap (List String) :=
  KeyMap.ofList [("b/X", []), ("a/X", ["t", "t"])]

/-- A listing with an error and another key beside what is read. -/
def sampleListing : Json :=
  .obj [("Err", .str "late"),
    ("Ok", .obj [("Size", .null), ("Tests", tableOf sampleTests.entries)])]

theorem answers_classified_sample :
    sampleListing.Sorted ∧
      sampleListing.HoldsAt ["Ok", "Tests"] (tableOf sampleTests.entries) ∧
      listing sampleListing = .ok ⟨sampleTests⟩ := by
  have htable : (tableOf sampleTests.entries).Sorted :=
    sorted_tableOf_iff.mpr sampleTests.increasing
  have hresult : (Json.obj [("Size", .null), ("Tests", tableOf sampleTests.entries)]).Sorted := by
    refine .obj (by decide) ?_
    simp only [List.forall_mem_cons, List.not_mem_nil, IsEmpty.forall_iff, implies_true, and_true]
    exact ⟨.null, htable⟩
  have hsorted : sampleListing.Sorted := by
    refine .obj (by decide) ?_
    simp only [List.forall_mem_cons, List.not_mem_nil, IsEmpty.forall_iff, implies_true, and_true]
    exact ⟨.str "late", hresult⟩
  have hplace : sampleListing.HoldsAt ["Ok", "Tests"] (tableOf sampleTests.entries) :=
    .field rfl (.field rfl (.here _))
  exact ⟨hsorted, hplace, ((answers_classified sampleListing).2.1 hsorted _).mpr hplace⟩

end CallTree.Runner
