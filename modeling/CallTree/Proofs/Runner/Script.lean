import CallTree.Proofs.Address.Endpoint
import CallTree.Proofs.Runner.Attempts
import CallTree.Runner.Client

/-!
# Which requests a client makes

A call of a client has one or two phases, and each of them asks one endpoint for
a JSON value.  A phase sends the same request again and again, until a reply
gives a value or the request has been sent as often as allowed; the call goes on
to its next phase only after a value, whatever that value says, and at its end
reads the last one.

Requests are numbered through all calls, and the request of a number meets the
reply of that number: the requests sent before are the state of the client, so
the next one always has their number.

* `Sends` — the requests of one phase, and the value that it gets;
* `Plays` — those of several phases, one after the other;
* `Follows` — those of a sequence of calls, and the results of the calls;
* `sends_attemptFrom`, `sends_ask` — attempts at a request make up a phase;
* `performs_make` — the phases of a call;
* `requests_follow_script` — a sequence of calls.
-/

namespace CallTree.Runner

open Address (withSlash)

/-- The JSON value that a reply gives: what its body says, unless its status is
that of an error. -/
def Reply.value? : Reply → Option Json
  | .answer status body =>
      if 400 ≤ status ∧ status ≤ 599 then none else (Json.read body).toOption
  | .unreachable => none

/-- One phase of a call: an endpoint is asked for a value. -/
structure Phase where
  endpoint : Endpoint
  method : Method
  body : Option Json

/-- The request of a phase; endpoints stand below `root`. -/
def Phase.request (root : String) (phase : Phase) : Request :=
  ⟨phase.method, root ++ phase.endpoint.name, phase.body⟩

section Script

variable (service : Service) (attempts : Nat)

/-- The requests of one phase, after those in `sent`: the same one until a reply
gives a value, and at most as often as allowed. -/
inductive Sends (request : Request) (sent : List Request) : Option Json → List Request → Prop
  | answered {failures : Nat} {value : Json} (few : failures < attempts)
      (failed : ∀ i < failures, (service (sent.length + i)).value? = none)
      (answer : (service (sent.length + failures)).value? = some value) :
      Sends request sent (some value) (sent ++ List.replicate (failures + 1) request)
  | exhausted (failed : ∀ i < attempts, (service (sent.length + i)).value? = none) :
      Sends request sent none (sent ++ List.replicate attempts request)

/-- The requests of several phases, and the value that the last one gets, or the
endpoint that gave none. -/
inductive Plays (root : String) :
    List Phase → List Request → Except Endpoint Json → List Request → Prop
  | last {phase : Phase} {sent after : List Request} {value : Json}
      (sends : Sends service attempts (phase.request root) sent (some value) after) :
      Plays root [phase] sent (.ok value) after
  | silent {phase : Phase} {later : List Phase} {sent after : List Request}
      (sends : Sends service attempts (phase.request root) sent none after) :
      Plays root (phase :: later) sent (.error phase.endpoint) after
  | next {phase second : Phase} {later : List Phase} {sent between after : List Request}
      {value : Json} {answer : Except Endpoint Json}
      (sends : Sends service attempts (phase.request root) sent (some value) between)
      (rest : Plays root (second :: later) between answer after) :
      Plays root (phase :: second :: later) sent answer after

/-- How a call ends whose last phase got `answer`: the value is read once, and an
endpoint that gave none was asked as often as allowed. -/
inductive Ends {α : Type} (read : Json → Except ResponseError α) :
    Except Endpoint Json → Except ClientError α → Prop
  | read {value : Json} {result : α} (reads : read value = .ok result) :
      Ends read (.ok value) (.ok result)
  | refused {value : Json} {e : ResponseError} (reads : read value = .error e) :
      Ends read (.ok value) (.error (.response e))
  | silent {endpoint : Endpoint} {cause : String} :
      Ends read (.error endpoint) (.error (.exhausted ⟨endpoint.name, attempts, cause⟩))

end Script

/-! ## Calls -/

/-- A call of a client. -/
inductive Call where
  | listTests
  | runTest (ref : TestRef)
  | compile (srcDir : String)
  | loadCompiled (srcDir : String)
  | simulate (hash : String)

/-- What a call gives. -/
inductive Given where
  | catalog (catalog : Catalog)
  | runs (runs : List Run)
  | run (run : Run)

/-- A call whose result is one of several kinds. -/
def giving {α β : Type} (kind : α → β) (call : Session α) : Session β :=
  Client.andThen call fun result sent => (.ok (kind result), sent)

namespace Call

/-- Makes a call. -/
def make (c : Client) (service : Service) : Call → Session Given
  | .listTests => giving .catalog (c.listTests service)
  | .runTest ref => giving .runs (c.runTest service ref)
  | .compile srcDir => giving .catalog (c.compile service srcDir)
  | .loadCompiled srcDir => giving .catalog (c.loadCompiled service srcDir)
  | .simulate hash => giving .run (c.simulate service hash)

/-- The phases of a call. -/
def phases (c : Client) : Call → List Phase
  | .listTests => [⟨.tests, .get, none⟩]
  | .runTest ref => [⟨.test, .post, some (c.testBody ref)⟩]
  | .compile srcDir =>
      [⟨.compile, .post, some (Client.compileBody srcDir)⟩, ⟨.tests, .get, none⟩]
  | .loadCompiled srcDir =>
      [⟨.loadCompiled, .post, some (Client.loadBody srcDir)⟩, ⟨.tests, .get, none⟩]
  | .simulate hash => [⟨.simulation, .post, some (Client.simulationBody hash)⟩]

/-- How the value of the last phase of a call is read. -/
def read : Call → Json → Except ResponseError Given
  | .runTest ref, answer => (testRuns answer ref).map .runs
  | .simulate _, answer => (simulation answer).map .run
  | _, answer => (listing answer).map .catalog

end Call

/-- Makes several calls, one after the other. -/
def makeAll (c : Client) (service : Service) :
    List Call → List Request → List (Except ClientError Given) × List Request
  | [], sent => ([], sent)
  | call :: calls, sent =>
      let made := call.make c service sent
      let rest := makeAll c service calls made.2
      (made.1 :: rest.1, rest.2)

/-- The requests of a sequence of calls, after those in `sent`, and the results
of the calls. -/
inductive Follows (c : Client) (service : Service) (attempts : Nat) (root : String) :
    List Call → List Request → List (Except ClientError Given) → List Request → Prop
  | done {sent : List Request} : Follows c service attempts root [] sent [] sent
  | call {call : Call} {calls : List Call} {sent between after : List Request}
      {answer : Except Endpoint Json} {result : Except ClientError Given}
      {results : List (Except ClientError Given)}
      (plays : Plays service attempts root (call.phases c) sent answer between)
      (ends : Ends attempts call.read answer result)
      (rest : Follows c service attempts root calls between results after) :
      Follows c service attempts root (call :: calls) sent (result :: results) after

/-! ## Attempts -/

/-- A status is an error exactly in two hundreds. -/
theorem statusError_eq_none_iff (status : Nat) (url : String) :
    Client.statusError status url = none ↔ ¬ (400 ≤ status ∧ status ≤ 599) := by
  unfold Client.statusError
  dsimp only
  split
  · simp
    omega
  · split
    · simp
      omega
    · simp
      omega

/-- A reply is read where it gives a value. -/
theorem toOption_readReply (url : String) (reply : Reply) :
    (Client.readReply url reply).toOption = reply.value? := by
  cases reply with
  | unreachable => rfl
  | answer status body =>
      have hstatus := statusError_eq_none_iff status url
      unfold Client.readReply Reply.value?
      dsimp only
      cases herror : Client.statusError status url with
      | some text =>
          rw [herror] at hstatus
          have hrange : 400 ≤ status ∧ status ≤ 599 := by
            by_contra hrange
            cases hstatus.mpr hrange
          rw [if_pos hrange]
          rfl
      | none =>
          rw [if_neg (hstatus.mp herror)]
          cases Json.read body with
          | ok value => rfl
          | error e => rfl

section Attempts

variable {service : Service}

/-- A request that failed once is sent once more than without that. -/
theorem Sends.later {attempts : Nat} {request : Request} {sent after : List Request}
    {outcome : Option Json} (hfailed : (service sent.length).value? = none)
    (h : Sends service attempts request (sent ++ [request]) outcome after) :
    Sends service (attempts + 1) request sent outcome after := by
  have hshift (i : Nat) : (sent ++ [request]).length + i = sent.length + (i + 1) := by
    simp [Nat.add_comm, Nat.add_left_comm]
  have hsent (n : Nat) : sent ++ [request] ++ List.replicate n request =
      sent ++ List.replicate (n + 1) request := by
    rw [List.replicate_succ, List.append_assoc, List.singleton_append]
  have hall {n : Nat} (hlater : ∀ i < n, (service ((sent ++ [request]).length + i)).value? = none) :
      ∀ i < n + 1, (service (sent.length + i)).value? = none := by
    intro i hi
    cases i with
    | zero => exact hfailed
    | succ i =>
        rw [← hshift]
        exact hlater i (by omega)
  cases h with
  | answered few failed answer =>
      rw [hsent]
      rw [hshift] at answer
      exact Sends.answered (by omega) (hall failed) answer
  | exhausted failed =>
      rw [hsent]
      exact Sends.exhausted (hall failed)

/-- **Attempts at a request make up a phase.** -/
theorem sends_attemptFrom {request : Request}
    {exchange : List Request → Except String Json × List Request}
    (hexchange : ∀ sent, (exchange sent).1.toOption = (service sent.length).value? ∧
      (exchange sent).2 = sent ++ [request]) (limit number : Nat) (sent : List Request) :
    Sends service (limit - number + 1) request sent
      (attemptFrom exchange limit number sent).1.toOption
      (attemptFrom exchange limit number sent).2 := by
  fun_induction attemptFrom exchange limit number sent with
  | case1 number sent value after hmade =>
      have hfirst : ∀ i < 0, (service (sent.length + i)).value? = none := by simp
      obtain ⟨hvalue, hsent⟩ := hexchange sent
      rw [hmade] at hvalue hsent
      subst hsent
      exact Sends.answered (Nat.succ_pos _) hfirst hvalue.symm
  | case2 number sent text after hmade hlast =>
      obtain ⟨hvalue, hsent⟩ := hexchange sent
      rw [hmade] at hvalue hsent
      subst hsent
      rw [Nat.sub_eq_zero_of_le hlast]
      refine Sends.exhausted fun i hi => ?_
      obtain rfl : i = 0 := by omega
      exact hvalue.symm
  | case3 number sent text after hmade hmore ih =>
      obtain ⟨hvalue, hsent⟩ := hexchange sent
      rw [hmade] at hvalue hsent
      subst hsent
      have hleft : limit - number = limit - (number + 1) + 1 := by omega
      rw [hleft]
      exact Sends.later hvalue.symm ih

end Attempts

/-! ## Phases -/

section Phases

variable {c : Client} (service : Service) {attempts : Nat} {root : String}

/-- Whether the endpoints of a client stand below `root` on the web, and requests
are sent as often as `attempts` says. -/
structure Client.Reaches (c : Client) (attempts : Nat) (root : String) : Prop where
  endpoint : ∀ name, ∃ target, c.base.endpoint name = .ok target ∧ target.isWeb = true ∧
    target.pathText = root ++ name
  allowed : allowedAttempts c.maxAttempts = attempts
  pos : 1 ≤ attempts

/-- Asks the endpoint of a phase. -/
def Client.ask (c : Client) (service : Service) (phase : Phase) : Session Json :=
  c.fetch service phase.endpoint phase.method phase.body

/-- A phase that gets no value has asked as often as allowed. -/
def Silent (attempts : Nat) (endpoint : Endpoint) (result : Except ClientError Json) : Prop :=
  ∀ e, result = .error e → ∃ cause, e = .exhausted ⟨endpoint.name, attempts, cause⟩

/-- One attempt meets the reply whose number is that of the requests before. -/
theorem exchange_spec {target : Address} (hweb : target.isWeb = true) (method : Method)
    (body : Option Json) (sent : List Request) :
    (Client.exchange service target method body sent).1.toOption =
        (service sent.length).value? ∧
      (Client.exchange service target method body sent).2 =
        sent ++ [⟨method, target.pathText, body⟩] := by
  unfold Client.exchange
  rw [if_pos hweb]
  exact ⟨toOption_readReply _ _, rfl⟩

/-- **Asking the endpoint of a phase sends the requests of the phase.** -/
theorem sends_ask (h : c.Reaches attempts root) (phase : Phase) (sent : List Request) :
    Sends service attempts (phase.request root) sent (c.ask service phase sent).1.toOption
        (c.ask service phase sent).2 ∧
      Silent attempts phase.endpoint (c.ask service phase sent).1 := by
  obtain ⟨target, htarget, hweb, hpath⟩ := h.endpoint phase.endpoint.name
  have hrequest : phase.request root = ⟨phase.method, target.pathText, phase.body⟩ := by
    rw [Phase.request, hpath]
  have hleft : attempts - 1 + 1 = attempts := Nat.sub_add_cancel h.pos
  have hsends := sends_attemptFrom (exchange_spec service hweb phase.method phase.body)
    attempts 1 sent
  rw [hleft, ← hrequest] at hsends
  unfold Client.ask Client.fetch
  rw [htarget]
  dsimp only [retry, retryUpTo]
  rw [h.allowed]
  cases hattempts : attemptFrom (Client.exchange service target phase.method phase.body)
      attempts 1 sent with
  | mk found after =>
      rw [hattempts] at hsends
      cases found with
      | ok value =>
          refine ⟨hsends, ?_⟩
          rintro e ⟨⟩
      | error last =>
          obtain ⟨number, text⟩ := last
          have hnumber := number_of_attemptFrom (congrArg Prod.fst hattempts)
          rw [Nat.max_eq_left h.pos] at hnumber
          refine ⟨hsends, ?_⟩
          rintro e ⟨⟩
          exact ⟨_, by rw [hnumber]⟩

/-- Whether a session plays the phases of a script, and ends as `read` reads the
last value. -/
def Performs (service : Service) (attempts : Nat) (root : String) {α : Type} (phases : List Phase)
    (read : Json → Except ResponseError α) (session : Session α) : Prop :=
  ∀ sent, ∃ answer, Plays service attempts root phases sent answer (session sent).2 ∧
    Ends attempts read answer (session sent).1

/-- A session that asks an endpoint first ends where that gives no value, and
otherwise is left with what is to be done with the value. -/
theorem performs_asking {α : Type} (h : c.Reaches attempts root) (phase : Phase)
    (later : List Phase) {read : Json → Except ResponseError α} {next : Json → Session α}
    (hnext : ∀ sent after value,
      Sends service attempts (phase.request root) sent (some value) after →
        ∃ answer, Plays service attempts root (phase :: later) sent answer (next value after).2 ∧
          Ends attempts read answer (next value after).1) :
    Performs service attempts root (phase :: later) read
      (Client.andThen (c.ask service phase) next) := by
  intro sent
  obtain ⟨hsends, hsilent⟩ := sends_ask service h phase sent
  unfold Client.andThen
  cases hask : c.ask service phase sent with
  | mk found after =>
      rw [hask] at hsends hsilent
      cases found with
      | error e =>
          obtain ⟨cause, rfl⟩ := hsilent e rfl
          exact ⟨.error phase.endpoint, Plays.silent hsends, Ends.silent⟩
      | ok value => exact hnext sent after value hsends

/-- A session that reads the value of an endpoint has one phase. -/
theorem performs_reading {α : Type} (h : c.Reaches attempts root) (phase : Phase)
    (read : Json → Except ResponseError α) :
    Performs service attempts root [phase] read (Client.reading (c.ask service phase) read) := by
  apply performs_asking service h
  intro sent after value hsends
  refine ⟨.ok value, ?_⟩
  cases hread : read value with
  | ok result => exact ⟨Plays.last hsends, Ends.read hread⟩
  | error e => exact ⟨Plays.last hsends, Ends.refused hread⟩

/-- **The phases after the first one are played if the first one gets a value**,
whatever it is. -/
theorem performs_andThen {α : Type} (h : c.Reaches attempts root) (phase second : Phase)
    (later : List Phase) {read : Json → Except ResponseError α} {next : Session α}
    (hnext : Performs service attempts root (second :: later) read next) :
    Performs service attempts root (phase :: second :: later) read
      (Client.andThen (c.ask service phase) fun _ => next) := by
  apply performs_asking service h
  intro sent after value hsends
  obtain ⟨answer, hplays, hends⟩ := hnext after
  exact ⟨answer, Plays.next hsends hplays, hends⟩

/-- The kind of a result makes no difference to what is played. -/
theorem performs_giving {α β : Type} {phases : List Phase} {read : Json → Except ResponseError α}
    {session : Session α} (kind : α → β)
    (h : Performs service attempts root phases read session) :
    Performs service attempts root phases (fun value => (read value).map kind)
      (giving kind session) := by
  intro sent
  obtain ⟨answer, hplays, hends⟩ := h sent
  refine ⟨answer, ?_⟩
  unfold giving Client.andThen
  cases hsession : session sent with
  | mk result after =>
      rw [hsession] at hplays hends
      cases hends with
      | read hread => exact ⟨hplays, Ends.read (by rw [hread]; rfl)⟩
      | refused hread => exact ⟨hplays, Ends.refused (by rw [hread]; rfl)⟩
      | silent => exact ⟨hplays, Ends.silent⟩

/-- **A call plays its phases.** -/
theorem performs_make (h : c.Reaches attempts root) (call : Call) :
    Performs service attempts root (call.phases c) call.read (call.make c service) := by
  have hlist : Performs service attempts root [⟨.tests, .get, none⟩] listing
      (c.listTests service) := performs_reading service h _ listing
  cases call with
  | listTests => exact performs_giving service Given.catalog hlist
  | runTest ref =>
      exact performs_giving service Given.runs
        (performs_reading service h _ fun answer => testRuns answer ref)
  | compile srcDir =>
      exact performs_giving service Given.catalog (performs_andThen service h _ _ [] hlist)
  | loadCompiled srcDir =>
      exact performs_giving service Given.catalog (performs_andThen service h _ _ [] hlist)
  | simulate hash =>
      exact performs_giving service Given.run (performs_reading service h _ simulation)

/-- Calls that are made one after the other follow the script of all of them. -/
theorem follows_makeAll (h : c.Reaches attempts root) (calls : List Call)
    (sent : List Request) :
    Follows c service attempts root calls sent (makeAll c service calls sent).1
      (makeAll c service calls sent).2 := by
  induction calls generalizing sent with
  | nil => exact Follows.done
  | cons call calls ih =>
      obtain ⟨answer, hplays, hends⟩ := performs_make service h call sent
      exact Follows.call hplays hends (ih (call.make c service sent).2)

end Phases

/-- The endpoints of a client stand below the path of its address, if the address
is one of the web. -/
theorem reaches_of_create {url : String} {testerIsEoa : Bool} {attempts : Nat} {c : Client}
    (hclient : Client.create url testerIsEoa attempts = .ok c) (hweb : c.base.isWeb = true)
    (hpos : 1 ≤ attempts) : c.Reaches attempts (withSlash c.base.pathText) := by
  unfold Client.create at hclient
  cases hparse : Address.parse url with
  | error e =>
      rw [hparse] at hclient
      cases hclient
  | ok base =>
      rw [hparse] at hclient
      cases hclient
      obtain ⟨parts, hpath, hne, hsettled⟩ := Address.exists_parts_of_parse hparse hweb
      constructor
      case endpoint =>
        exact fun name => Address.endpoint_pathText hpath hne hsettled hweb name
      case allowed => exact Nat.max_eq_left hpos
      case pos => exact hpos

/-- **The requests of a client follow the script of its calls.**  Whatever the
runner replies, every call plays its phases, each with the same request until a
reply gives a value and at most as often as allowed; requests are numbered
through all calls, and each meets the reply of its number. -/
theorem requests_follow_script {url : String} {testerIsEoa : Bool} {attempts : Nat} {c : Client}
    (hclient : Client.create url testerIsEoa attempts = .ok c) (hweb : c.base.isWeb = true)
    (hpos : 1 ≤ attempts) (service : Service) (calls : List Call) :
    Follows c service attempts (withSlash c.base.pathText) calls []
      (makeAll c service calls []).1 (makeAll c service calls []).2 :=
  follows_makeAll service (reaches_of_create hclient hweb hpos) calls []

/-- A client with a path before its endpoints. -/
def sampleClient : Client :=
  ⟨⟨"http".toList, some "[::1]".toList, .parts ["api".toList]⟩, true, 2⟩

/-- A runner that fails once, answers with nonsense, and is gone. -/
def sampleReplies : Service
  | 0 => .answer 503 ""
  | 1 => .answer 200 "[]"
  | 2 => .answer 200 "7"
  | _ => .unreachable

theorem requests_follow_script_sample :
    Client.create "http://[::1]/api" true 2 = .ok sampleClient ∧
      Follows sampleClient sampleReplies 2 "/api/" [.compile "src", .simulate "0xab"] []
        (makeAll sampleClient sampleReplies [.compile "src", .simulate "0xab"] []).1
        (makeAll sampleClient sampleReplies [.compile "src", .simulate "0xab"] []).2 ∧
      (makeAll sampleClient sampleReplies [.compile "src", .simulate "0xab"] []).2.map
          Request.path =
        ["/api/compile", "/api/compile", "/api/tests", "/api/sim", "/api/sim"] := by
  have hparse : Address.parse "http://[::1]/api" = .ok sampleClient.base := by decide +kernel
  have hclient : Client.create "http://[::1]/api" true 2 = .ok sampleClient := by
    rw [Client.create, hparse]
    rfl
  have hroot : withSlash sampleClient.base.pathText = "/api/" := by decide
  refine ⟨hclient, ?_, by decide +kernel⟩
  rw [← hroot]
  exact requests_follow_script hclient (by decide) (by omega) sampleReplies _

end CallTree.Runner
