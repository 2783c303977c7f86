/-!
# Arguments of the command line

Options that hold for all commands stand before the name of the command, and
the arguments of a command after it.  The value of an option follows it or is
attached to it, and nothing may be given twice.  Paths may not be empty.  A
value that stands apart is checked when the next option comes, so a command that
is asked for help gives it even where the last value before it will not do.

* `Invocation.ofArguments` — what a list of arguments asks for.
-/

namespace CallTree.CommandLine

/-- What can be done. -/
inductive Command where
  /-- Shows the tree of a trace in a file. -/
  | render (path : String)
  /-- Lists the tests that the runner knows. -/
  | tests
  /-- Runs a test and shows the tree of its last run. -/
  | run (src test : String)
  /-- Has sources compiled, or their compiled output loaded, and lists the
  tests. -/
  | compile (srcDir : Option String) (load : Bool)
  /-- Simulates a transaction and shows its tree. -/
  | simulate (hash : String)
  /-- Shows the tree of a stored trace, or lists the stored ones. -/
  | history (label : Option String)
deriving DecidableEq

/-- The options that hold for all commands. -/
structure Options where
  config : Option String
  output : Option String
deriving DecidableEq

/-- The options of a command line without any. -/
def Options.none : Options := ⟨Option.none, Option.none⟩

/-- The names of the options that hold for all commands. -/
inductive OptionName where
  | config
  | output
deriving DecidableEq

/-- The long name of an option. -/
def OptionName.long : OptionName → List Char
  | .config => "config".toList
  | .output => "output".toList

/-- The letter of an option. -/
def OptionName.letter : OptionName → Char
  | .config => 'c'
  | .output => 'o'

/-- The options with one more, whose value is a path; none where the value is
empty or the option is there already. -/
def Options.add (o : Options) (name : OptionName) (value : String) : Option Options :=
  if value = "" then Option.none
  else
    match name with
    | .config => if o.config.isSome then Option.none else some { o with config := some value }
    | .output => if o.output.isSome then Option.none else some { o with output := some value }

/-- The file of the settings. -/
def Options.configPath (o : Options) : String := o.config.getD "config.yml"

/-- What a list of arguments asks for. -/
inductive Invocation where
  | perform (options : Options) (command : Command)
  /-- The help text, of a command where one is named. -/
  | help (command : Option String)
  | version
  /-- Arguments that cannot be understood. -/
  | misuse
deriving DecidableEq

/-- The names of the commands. -/
def commandNames : List String := ["render", "tests", "run", "compile", "sim", "history", "help"]

/-- Whether an argument is an option or a cluster of them, and no value. -/
def isFlag (argument : String) : Bool :=
  match argument.toList with
  | '-' :: _ :: _ => true
  | _ => false

/-- Whether an argument asks for help; what else is in its cluster does not
matter. -/
def asksForHelp (argument : String) : Bool :=
  argument = "--help" || argument.startsWith "-h"

/-- The value attached to an option, behind `=` for long names and with or
without it for letters. -/
def attached? (long : List Char) (letter : Option Char) (argument : String) : Option String :=
  match argument.toList with
  | '-' :: '-' :: rest =>
      if rest.take long.length = long then
        match rest.drop long.length with
        | '=' :: value => some (String.ofList value)
        | _ => none
      else none
  | '-' :: c :: rest =>
      if some c = letter then
        match rest with
        | [] => none
        | '=' :: value => some (String.ofList value)
        | value => some (String.ofList value)
      else none
  | _ => none

/-- Whether an argument is an option itself, its value apart. -/
def isOption (long : List Char) (letter : Option Char) (argument : String) : Bool :=
  argument = "--" ++ String.ofList long || letter.any fun c => argument = String.ofList ['-', c]

/-- The value of an option. -/
inductive OptionValue where
  /-- A value in the argument of the option. -/
  | attached (value : String)
  /-- The argument after the option. -/
  | apart (value : String)
  | missing

/-- The value of an option that begins a list of arguments, and the arguments
after it: `none` where they do not begin with the option. -/
def optionValue? (long : List Char) (letter : Option Char) :
    List String → Option (OptionValue × List String)
  | [] => none
  | argument :: rest =>
      match attached? long letter argument with
      | some value => some (.attached value, rest)
      | none =>
          if isOption long letter argument then
            match rest with
            | value :: rest =>
                if isFlag value then some (.missing, rest) else some (.apart value, rest)
            | [] => some (.missing, [])
          else none

/-- What arguments of a command say: values, a wish for help, or nothing that
can be understood. -/
inductive Values where
  | values (values : List String)
  | help
  | misuse

/-- The values among the arguments of a command that takes at most `room` of
them and no option; behind `--` everything is a value.  What may be a value is
checked before anything that follows it. -/
def plainValues (allowed : String → Bool) : (room : Nat) → (literal : Bool) → List String → Values
  | _, _, [] => .values []
  | room, literal, argument :: rest =>
      if !literal && argument = "--" then plainValues allowed room true rest
      else if !literal && asksForHelp argument then .help
      else if !literal && isFlag argument then .misuse
      else
        match room with
        | 0 => .misuse
        | room + 1 =>
            if allowed argument then
              match plainValues allowed room literal rest with
              | .values values => .values (argument :: values)
              | other => other
            else .misuse

/-- What a command with the given values asks for; the options are missing
where those before the command will not do. -/
def withValues (options : Option Options) (name : String) (values : Values)
    (command? : List String → Option Command) : Invocation :=
  match values with
  | .help => .help (some name)
  | .misuse => .misuse
  | .values values =>
      match options, command? values with
      | some options, some command => .perform options command
      | _, _ => .misuse

/-- The values among the arguments of the command that compiles, and whether it
only loads. -/
def compileValues : (fuel : Nat) → (srcDir : Option String) → (load : Bool) → List String →
    Values × Bool
  | 0, _, load, _ => (.misuse, load)
  | _, srcDir, load, [] => (.values srcDir.toList, load)
  | fuel + 1, srcDir, load, argument :: rest =>
      if asksForHelp argument then (.help, load)
      else if argument = "--load" then
        if load then (.misuse, load) else compileValues fuel srcDir true rest
      else if argument = "--" then
        (if rest.isEmpty then .values srcDir.toList else .misuse, load)
      else
        let next := fun (value : String) (rest : List String) =>
          if srcDir.isSome then (.misuse, load) else compileValues fuel (some value) load rest
        match optionValue? "src-dir".toList none (argument :: rest) with
        | some (.attached value, rest) => next value rest
        | some (.apart value, rest) => next value rest
        | _ => (.misuse, load)

/-- Reads the name of a command and its arguments. -/
def commandArguments (options : Option Options) (name : String) (rest : List String) :
    Invocation :=
  match name with
  | "render" =>
      withValues options name (plainValues (· != "") 1 false rest) fun
        | [path] => some (.render path)
        | _ => none
  | "tests" =>
      withValues options name (plainValues (fun _ => true) 0 false rest) fun
        | [] => some .tests
        | _ => none
  | "run" =>
      withValues options name (plainValues (fun _ => true) 2 false rest) fun
        | [src, test] => some (.run src test)
        | _ => none
  | "compile" =>
      let (values, load) := compileValues (rest.length + 1) none false rest
      withValues options name values fun srcDir => some (.compile srcDir.head? load)
  | "sim" =>
      withValues options name (plainValues (fun _ => true) 1 false rest) fun
        | [hash] => some (.simulate hash)
        | _ => none
  | "history" =>
      withValues options name (plainValues (fun _ => true) 1 false rest) fun
        | [] => some (.history none)
        | [label] => some (.history (some label))
        | _ => none
  | "help" =>
      match rest with
      | [] => .help none
      | [topic] =>
          if commandNames.contains topic then .help (some topic) else .misuse
      | _ => .misuse
  | _ => .misuse

/-- The option that begins a list of arguments, its value, and the arguments
after it. -/
def readOption (arguments : List String) : Option (OptionName × OptionValue × List String) :=
  [OptionName.config, OptionName.output].findSome? fun name =>
    (optionValue? name.long (some name.letter) arguments).map (name, ·)

/-- The options with the last one, whose value stood apart. -/
def settle (options : Options) : Option (OptionName × String) → Option Options
  | some (name, value) => options.add name value
  | none => some options

/-- Reads options up to the name of a command. -/
def readArguments : (fuel : Nat) → Options → (last : Option (OptionName × String)) →
    List String → Invocation
  | 0, _, _, _ => .misuse
  | _, _, _, [] => .misuse
  | fuel + 1, options, last, argument :: rest =>
      let settled := settle options last
      if asksForHelp argument then if settled.isSome then .help none else .misuse
      else if argument = "--version" || argument.startsWith "-V" then
        if settled.isSome then .version else .misuse
      else
        match readOption (argument :: rest), settled with
        | some (name, .attached value, rest), some options =>
            match options.add name value with
            | some options => readArguments fuel options none rest
            | none => .misuse
        | some (name, .apart value, rest), some options =>
            readArguments fuel options (some (name, value)) rest
        | some _, _ => .misuse
        | none, _ => if isFlag argument then .misuse else commandArguments settled argument rest

/-- What a list of arguments asks for. -/
def Invocation.ofArguments (arguments : List String) : Invocation :=
  readArguments (arguments.length + 1) Options.none none arguments

end CallTree.CommandLine
