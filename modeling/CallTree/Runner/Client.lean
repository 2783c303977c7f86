import CallTree.Address.Basic
import CallTree.Json.Reader
import CallTree.Runner.Response
import CallTree.Runner.Retry

/-!
# Talking to the runner

A client turns each of its calls into requests and reads the answers.  The
service on the other side is a function from the number of a request to the
reply that it meets, so a call is a function on the list of requests that were
made before.

* `Client.fetch` — one endpoint, with as many attempts as are allowed;
* `Client.listTests`, `Client.runTest`, `Client.compile`,
  `Client.loadCompiled`, `Client.simulate` — the calls.
-/

namespace CallTree.Runner

/-- How a request is made. -/
inductive Method where
  | get
  | post
deriving DecidableEq

/-- The word for a way to make a request. -/
def Method.name : Method → String
  | .get => "GET"
  | .post => "POST"

/-- A request that the service got. -/
structure Request where
  method : Method
  path : String
  body : Option Json

/-- What a request meets.  The reason phrase of an answer is no part of it: the service
gives `-` with every status. -/
inductive Reply where
  | answer (status : Nat) (body : String)
  | unreachable
deriving Inhabited

/-- The reply that each request meets; requests are counted from zero. -/
abbrev Service := Nat → Reply

/-- Why a call failed. -/
inductive ClientError where
  | address (e : AddressError)
  | exhausted (e : Exhausted)
  | response (e : ResponseError)

/-- A failed call, as a failure. -/
def ClientError.failure : ClientError → Failure
  | .address e => .plain e.message
  | .exhausted e => e.failure
  | .response e => .plain e.message

/-- The outcome of a call, and the requests made until then. -/
abbrev Session (α : Type) := List Request → Except ClientError α × List Request

/-- The side of an exchange that the settings of a user decide. -/
structure Client where
  base : Address
  testerIsEoa : Bool
  maxAttempts : Nat
deriving Inhabited

namespace Client

/-- The client for a runner at an address. -/
def create (url : String) (testerIsEoa : Bool) (maxAttempts : Nat) : Except Failure Client :=
  match Address.parse url with
  | .ok base => .ok ⟨base, testerIsEoa, maxAttempts⟩
  | .error e => .error (.because ("invalid runner URL " ++ url) e.message)

/-- The error text of a status, for those that are errors.  After the status stands the
reason phrase of the service, which is always `-`. -/
def statusError (status : Nat) (url : String) : Option String :=
  let text := fun (side : String) =>
    "HTTP status " ++ side ++ " error (" ++ status.repr ++ " -) for url (" ++ url ++ ")"
  if 400 ≤ status ∧ status < 500 then some (text "client")
  else if 500 ≤ status ∧ status < 600 then some (text "server")
  else none

/-- The JSON value of a reply, or the text of an error. -/
def readReply (url : String) : Reply → Except String Json
  | .unreachable => .error ("error sending request for url (" ++ url ++ ")")
  | .answer status body =>
      match statusError status url with
      | some text => .error text
      | none =>
          match Json.read body with
          | .ok value => .ok value
          | .error _ => .error "error decoding response body"

/-- One attempt: the request is made and its reply read.  No request can be made
to an address that is not on the web. -/
def exchange (service : Service) (target : Address) (method : Method) (body : Option Json)
    (sent : List Request) : Except String Json × List Request :=
  if target.isWeb then
    (readReply target.text (service sent.length), sent ++ [⟨method, target.pathText, body⟩])
  else (.error ("builder error for url (" ++ target.text ++ ")"), sent)

/-- Asks an endpoint for a JSON value. -/
def fetch (c : Client) (service : Service) (endpoint : Endpoint) (method : Method)
    (body : Option Json) : Session Json := fun sent =>
  match c.base.endpoint endpoint.name with
  | .error e => (.error (.address e), sent)
  | .ok target =>
      match retry endpoint.name c.maxAttempts (exchange service target method body) sent with
      | (.ok value, sent) => (.ok value, sent)
      | (.error e, sent) => (.error (.exhausted e), sent)

/-- Goes on with the result of a call, if it has one. -/
def andThen {α β : Type} (call : Session α) (next : α → Session β) : Session β := fun sent =>
  match call sent with
  | (.ok result, sent) => next result sent
  | (.error e, sent) => (.error e, sent)

/-- Reads the answer of a call. -/
def reading {α : Type} (call : Session Json) (read : Json → Except ResponseError α) :
    Session α :=
  andThen call fun answer sent =>
    match read answer with
    | .ok result => (.ok result, sent)
    | .error e => (.error (.response e), sent)

/-- The tests that the runner knows. -/
def listTests (c : Client) (service : Service) : Session Catalog :=
  reading (c.fetch service .tests .get none) listing

/-- What is sent to run a test. -/
def testBody (c : Client) (ref : TestRef) : Json :=
  .obj [("options", .obj [("testerIsEOA", .bool c.testerIsEoa)]), ("tests", ref.selector)]

/-- The runs of a test, in the order in which they were made. -/
def runTest (c : Client) (service : Service) (ref : TestRef) : Session (List Run) :=
  reading (c.fetch service .test .post (some (c.testBody ref))) fun answer => testRuns answer ref

/-- Where the compiled output of a source directory is. -/
def outputOf (srcDir : String) : String := srcDir ++ "/out"

/-- What is sent to compile a source directory. -/
def compileBody (srcDir : String) : Json :=
  .obj [("input_dir", .str srcDir), ("output_dir", .str (outputOf srcDir))]

/-- Has a source directory compiled; whatever the runner says to that, the
tests it knows then count. -/
def compile (c : Client) (service : Service) (srcDir : String) : Session Catalog :=
  andThen (c.fetch service .compile .post (some (compileBody srcDir))) fun _ =>
    c.listTests service

/-- What is sent to load the compiled output of a source directory. -/
def loadBody (srcDir : String) : Json :=
  .obj [("output_dir", .str (outputOf srcDir))]

/-- Has the compiled output of a source directory loaded. -/
def loadCompiled (c : Client) (service : Service) (srcDir : String) : Session Catalog :=
  andThen (c.fetch service .loadCompiled .post (some (loadBody srcDir))) fun _ =>
    c.listTests service

/-- What is sent to simulate a transaction. -/
def simulationBody (hash : String) : Json :=
  .obj [("hash", .str hash), ("in_place", .bool false),
    ("options", .arr [.str "trace", .str "no_commit"])]

/-- The run of a transaction that was made before. -/
def simulate (c : Client) (service : Service) (hash : String) : Session Run :=
  reading (c.fetch service .simulation .post (some (simulationBody hash))) simulation

end Client

end CallTree.Runner
