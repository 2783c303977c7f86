import CallTree.Failure
import CallTree.Runner.ErrorPage

/-!
# Repeated requests

A request that fails is made again, until it succeeds or has been made as
often as allowed; it is made at least once.  Attempts are counted from one, and
the number and the error of the last one are reported.

A request is a function on a state, so that the state tells how often it was
made.
-/

namespace CallTree.Runner

variable {α σ : Type}

/-- How many attempts a setting allows. -/
def allowedAttempts (setting : Nat) : Nat := max setting 1

/-- A request that failed at every attempt. -/
structure Exhausted where
  endpoint : String
  attempts : Nat
  /-- The error text of the last attempt. -/
  cause : String
deriving DecidableEq

/-- A request that failed at every attempt, as a failure. -/
def Exhausted.failure (e : Exhausted) : Failure :=
  .because ("runner request /" ++ e.endpoint ++ " failed after " ++ e.attempts.repr ++
    " attempt(s)") e.cause

/-- Makes the attempt of a number and, as long as attempts fail and their numbers are
below `limit`, the ones after it.  A last attempt that fails gives its number and its
error text. -/
def attemptFrom (request : σ → Except String α × σ) (limit number : Nat) (state : σ) :
    Except (Nat × String) α × σ :=
  match request state with
  | (.ok result, state) => (.ok result, state)
  | (.error text, state) =>
      if limit ≤ number then (.error (number, text), state)
      else attemptFrom request limit (number + 1) state
termination_by limit - number

/-- Makes a request up to `limit` times, but at least once. -/
def retryUpTo (endpoint : String) (limit : Nat) (request : σ → Except String α × σ) (state : σ) :
    Except Exhausted α × σ :=
  match attemptFrom request limit 1 state with
  | (.ok result, state) => (.ok result, state)
  | (.error (number, text), state) => (.error ⟨endpoint, number, readable text⟩, state)

/-- Makes a request as often as `setting` allows. -/
def retry (endpoint : String) (setting : Nat) (request : σ → Except String α × σ) (state : σ) :
    Except Exhausted α × σ :=
  retryUpTo endpoint (allowedAttempts setting) request state

end CallTree.Runner
