/-!
# Help texts
-/

namespace CallTree.CommandLine

/-- The name of the program and its version. -/
def versionText : String := "trace-visualizer 0.1.1\n"

/-- What every command is for. -/
def commandSummaries : List (String × String) :=
  [("render", "Render a trace saved as JSON (frame list, single frame, or " ++
      "\x60\x7b\"trace\": [...]\x7d\x60)"),
    ("tests", "List the tests the runner knows about"),
    ("run", "Run one test on the runner and render its last run"),
    ("compile", "Compile (or with \x60--load\x60, load already compiled) sources, " ++
      "then list tests"),
    ("sim", "Simulate a mined transaction and render its trace"),
    ("history", "Render a stored trace, or list stored labels when none is given"),
    ("help", "Print this message or the help of the given subcommand(s)")]

/-- How every command is called. -/
def commandUsages : List (String × String) :=
  [("render", "render <PATH>"), ("tests", "tests"), ("run", "run <SRC> <TEST>"),
    ("compile", "compile [OPTIONS]"), ("sim", "sim <HASH>"), ("history", "history [LABEL]"),
    ("help", "help [COMMAND]...")]

/-- The values that every command takes, without commands that take none. -/
def commandValues : List (String × List (String × String)) :=
  [("render", [("<PATH>", "")]), ("run", [("<SRC>", ""), ("<TEST>", "")]),
    ("sim", [("<HASH>", "")]), ("history", [("[LABEL]", "")]),
    ("help", [("[COMMAND]...", "Print help for the subcommand(s)")])]

/-- The option of every command that asks for help. -/
def helpOption : String × String := ("-h, --help", "Print help")

/-- The options that hold for all commands. -/
def generalOptions : List (String × String) :=
  [("-c, --config <CONFIG>", "Path to the YAML config file [default: config.yml]"),
    ("-o, --output <OUTPUT>", "Write the display tree to this file instead of stdout"), helpOption,
    ("-V, --version", "Print version")]

/-- The options of a command. -/
def commandOptions (name : String) : List (String × String) :=
  match name with
  | "compile" => [("    --src-dir <SRC_DIR>", ""), ("    --load", ""), helpOption]
  | "help" => []
  | _ => [helpOption]

/-- A name with blanks behind it up to the given width. -/
def padded (width : Nat) (name : String) : String :=
  name ++ String.ofList (List.replicate (width - name.length) ' ')

/-- A list under a heading: names, and what they are for in a column of its
own.  Nothing is written where there are no names. -/
def listing (heading : String) (rows : List (String × String)) : String :=
  let width := rows.foldl (fun width row => max width row.1.length) 0
  if rows.isEmpty then ""
  else
    "\n" ++ heading ++ ":\n" ++
      String.join (rows.map fun (name, purpose) =>
        "  " ++ padded width name ++ "  " ++ purpose ++ "\n")

/-- The line that says how the program is called. -/
def usageText : String := "Usage: trace-visualizer [OPTIONS] <COMMAND>\n"

/-- The help text of the whole program. -/
def generalHelp : String :=
  usageText ++ listing "Commands" commandSummaries ++ listing "Options" generalOptions

/-- The help text of a command, or of the whole program. -/
def helpText : Option String → String
  | none => generalHelp
  | some name =>
      (commandSummaries.lookup name).getD "" ++ "\n\nUsage: trace-visualizer " ++
        (commandUsages.lookup name).getD name ++ "\n" ++
        listing "Arguments" ((commandValues.lookup name).getD []) ++
        listing "Options" (commandOptions name)

end CallTree.CommandLine
