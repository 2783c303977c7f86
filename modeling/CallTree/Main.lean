import CallTree.CommandLine.Run

/-!
# The program

Reads the files and variables that a run may need, does the run, and writes
back the files that it changed.  There is no network here, so every request
meets an unreachable runner.
-/

namespace CallTree.Program

/-- What stands at a path of the disk. -/
def probe (path : String) : IO (Option File) := do
  try
    let bytes ← IO.FS.readBinFile path
    return some (File.ofBytes bytes.toList)
  catch e =>
    match e with
    | .inappropriateType .. => return some .directory
    | _ => return none

/-- Reads what stands at the places to which pieces of a path lead, as far as
they are directories. -/
def gatherPieces (files : Files) (place : Place) (front : String) :
    List String → IO Files
  | [] => return files
  | piece :: rest => do
      let next := Files.enter place piece
      let path := front ++ piece
      match ← probe path with
      | some .directory =>
          let files := if Files.isAbove next then files else files.put next .directory
          gatherPieces files next (path ++ "/") rest
      | some file => return files.put next file
      | none => return files

/-- Reads what stands at a path and on the way to it. -/
def gather (files : Files) (path : String) : IO Files :=
  if path = "" then return files
  else if Path.isAbsolute path then
    gatherPieces files ["/"] "/" ((Path.pieces path).filter (· != ""))
  else gatherPieces files [] "" ((Path.pieces path).filter (· != ""))

/-- Writes the files that differ from what was read. -/
def writeBack (before after : Files) : IO Unit :=
  after.entries.entries.forM fun (path, file) => do
    if before.entries.get? path ≠ some file then
      match file with
      | .directory => IO.FS.createDir path
      | .text content => IO.FS.writeFile path content
      | .binary _ => return ()

/-- The variables that set something. -/
def variableNames : List String :=
  ["RUNNER__URL", "RUNNER__TESTER_IS_EOA", "RUNNER__TIMEOUT_SECS", "RETRY__MAX_ATTEMPTS",
    "RETRY__BASE_DELAY_MS", "RETRY__MAX_DELAY_MS", "HISTORY_PATH", "SRC_DIR", "STYLE__SUCCESS",
    "STYLE__FAIL", "STYLE__CREATE", "STYLE__DEFAULT_FILL", "STYLE__LOG_STROKE"].map
    ("TRACE_VIZ__" ++ ·)

/-- The variables of the environment that set something. -/
def readVariables : IO (List (String × String)) := do
  let values ← variableNames.mapM fun name => do
    return (← IO.getEnv name).map (name, ·)
  return values.filterMap id

/-- The paths that the arguments of a run name. -/
def namedPaths : CommandLine.Invocation → List String
  | .perform options command =>
      let config := options.configPath
      config :: Settings.formats.map (fun format => config ++ "." ++ format.1) ++
        options.output.toList ++
        (match command with
          | .render path => [path]
          | _ => [])
  | _ => []

/-- The history file that a run may read or write. -/
def historyPaths (invocation : CommandLine.Invocation) (files : Files)
    (environment : List (String × String)) : List String :=
  match invocation with
  | .perform options _ =>
      match Settings.load files options.configPath environment with
      | .ok settings => [settings.historyPath]
      | .error _ => []
  | _ => []

/-- Whether a run ends because its arguments cannot be understood. -/
def isMisuse : CommandLine.Invocation → Bool
  | .misuse => true
  | _ => false

end CallTree.Program

open CallTree in
/-- Does the run that the arguments ask for. -/
def main (arguments : List String) : IO UInt32 := do
  let invocation := CommandLine.Invocation.ofArguments arguments
  let environment ← Program.readVariables
  let files ← (Program.namedPaths invocation).foldlM Program.gather Files.empty
  let files ← (Program.historyPaths invocation files environment).foldlM Program.gather files
  let outcome := CommandLine.run arguments environment files fun _ => .unreachable
  Program.writeBack files outcome.files
  IO.print outcome.output
  IO.eprint outcome.report
  if Program.isMisuse invocation then IO.eprint CommandLine.usageText
  return UInt32.ofNat outcome.code
