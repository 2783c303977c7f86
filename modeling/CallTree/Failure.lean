/-!
# Failures

A failure says what could not be done and, where there is one, the cause of
it.  In a report both follow each other; on one line a colon stands between
them.
-/

namespace CallTree

/-- What could not be done, and why. -/
structure Failure where
  message : String
  cause : Option String
deriving DecidableEq

namespace Failure

/-- A failure that is its own cause. -/
def plain (message : String) : Failure := ⟨message, none⟩

/-- A failure with a cause. -/
def because (message cause : String) : Failure := ⟨message, some cause⟩

/-- A failure on one line. -/
def line (f : Failure) : String :=
  match f.cause with
  | some cause => f.message ++ ": " ++ cause
  | none => f.message

/-- Every line of a text set in by four spaces. -/
def indent (s : String) : String :=
  "    " ++ String.ofList (s.toList.flatMap fun c => if c = '\n' then "\n    ".toList else [c])

/-- A failure as the last lines of a run. -/
def report (f : Failure) : String :=
  match f.cause with
  | some cause => "Error: " ++ f.message ++ "\n\nCaused by:\n" ++ indent cause ++ "\n"
  | none => "Error: " ++ f.message ++ "\n"

end Failure

end CallTree
