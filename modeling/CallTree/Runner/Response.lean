import CallTree.Runner.Catalog

/-!
# Answers of the runner

Most answers come in an envelope, an object with the result under `Ok` or an
error under `Err`; the results of a test come without one.

* `listing` — the catalog of all tests;
* `testRuns` — the runs of one test, each with a label of its own;
* `simulation` — the run of a transaction.
-/

namespace CallTree.Runner

/-- What the runner can be asked for. -/
inductive Endpoint where
  | tests
  | test
  | compile
  | loadCompiled
  | simulation
deriving DecidableEq

/-- The last part of the address of an endpoint. -/
def Endpoint.name : Endpoint → String
  | .tests => "tests"
  | .test => "test"
  | .compile => "compile"
  | .loadCompiled => "load_compiled"
  | .simulation => "sim"

/-- A trace with the label under which it is kept. -/
structure Run where
  label : String
  trace : Json
deriving Inhabited

/-- An answer that holds no result. -/
inductive ResponseError where
  /-- An answer of the wrong form. -/
  | unexpected (endpoint : Endpoint) (reason : String)
  /-- A test without any run. -/
  | noRuns (ref : TestRef)
  /-- An error that the runner reports. -/
  | rejected (endpoint : Endpoint) (message : String)

/-- The message of an answer that holds no result. -/
def ResponseError.message : ResponseError → String
  | .unexpected endpoint reason =>
      "Unexpected response from " ++ endpoint.name ++ ": " ++ reason
  | .noRuns ref => "Runner returned no runs for " ++ ref.src ++ ":" ++ ref.test
  | .rejected endpoint message =>
      "Runner returned an error for " ++ endpoint.name ++ ": " ++ message

/-- What an envelope holds. -/
def openEnvelope (endpoint : Endpoint) : Json → Except ResponseError Json
  | .obj fields =>
      match fields.lookup "Ok", fields.lookup "Err" with
      | some result, _ => .ok result
      | none, some error => .error (.rejected endpoint error.bareText)
      | none, none => .error (.unexpected endpoint "missing Ok/Err envelope")
  | other => .error (.unexpected endpoint ("expected object, got " ++ other.compact))

/-- The catalog in an answer to a request for all tests. -/
def listing (answer : Json) : Except ResponseError Catalog := do
  let result ← openEnvelope .tests answer
  match result.get? "Tests" with
  | some tests => (Catalog.ofJson tests).mapError fun e => .unexpected .tests e.message
  | none => .error (.unexpected .tests "missing Tests")

/-- The label of a run of a test. -/
def runLabel (test : String) (index : Nat) : String :=
  test ++ ":" ++ index.repr

/-- The runs of a test that a list writes, counted from `index`. -/
def runsFrom (test : String) : (index : Nat) → List Json → Except ResponseError (List Run)
  | _, [] => .ok []
  | index, run :: runs =>
      match run.get? "trace" with
      | some trace => do
          let rest ← runsFrom test (index + 1) runs
          pure (⟨runLabel test index, trace⟩ :: rest)
      | none => .error (.unexpected .test ("run " ++ index.repr ++ " has no trace"))

/-- The list of the results of a test in an answer. -/
def resultsOf (answer : Json) (ref : TestRef) : Option (List Json) := do
  let tests ← answer.get? ref.src
  let result ← tests.get? ref.test
  (← result.get? "Test").items?

/-- The runs of a test in an answer. -/
def testRuns (answer : Json) (ref : TestRef) : Except ResponseError (List Run) :=
  match resultsOf answer ref with
  | none =>
      .error (.unexpected .test ("no Test results for " ++ ref.src ++ ":" ++ ref.test))
  | some [] => .error (.noRuns ref)
  | some results => runsFrom ref.test 0 results

/-- The run of a transaction in an answer. -/
def simulation (answer : Json) : Except ResponseError Run := do
  let result ← openEnvelope .simulation answer
  match (result.get? "Sim").bind Json.items? with
  | some (first :: _) =>
      match first.get? "trace" with
      | some trace => pure ⟨((first.get? "hash").bind Json.text?).getD "", trace⟩
      | none => .error (.unexpected .simulation "simulation has no trace")
  | _ => .error (.unexpected .simulation "missing Sim results")

end CallTree.Runner
