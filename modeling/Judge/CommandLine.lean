import Judge.CommandLine.Level

/-!
The command line of the program: where the configuration is, and one of five commands. The text of help
lists the subcommands, the operands and the options of a level, each with what it is about, in columns
that are as wide as their longest item.
-/

namespace Judge.CommandLine

/-- What is to be done. -/
inductive Command where
  /-- Lists the enabled languages. -/
  | languages
  /-- Replaces the tests of a problem with those of an archive. -/
  | importTests (problem : Int) (archive : String)
  /-- Writes the tests of a problem to an archive. -/
  | exportTests (problem : Int) (archive : String)
  /-- Runs the compiled checker of a submission on one output. -/
  | check (checker : String) (submission : Int) (output input answer : String)
  /-- Compiles a source file. -/
  | compile (language source : String) (id : Int)
  deriving DecidableEq, Repr

/-- A command with the path of the configuration. -/
structure Request where
  config : Option String
  command : Command
  deriving DecidableEq, Repr

/-- The levels of the subcommands. -/
def subcommandLevels : List Level := [
  { name := some "languages"
    about := "List the enabled languages and their extensions" },
  { name := some "import"
    about := "Replace a problem's tests with the contents of a zip archive"
    operands := [
      { name := "problem-id", form := .number },
      { name := "archive", form := .path }] },
  { name := some "export"
    about := "Write a problem's tests to a zip archive"
    operands := [
      { name := "problem-id", form := .number },
      { name := "output", form := .path }] },
  { name := some "check"
    about := "Run a compiled custom checker on one program output"
    options := [
      { name := "checker", form := .text,
        about := "Checker source file name, used to pick its language" },
      { name := "submission", form := .number, negative := true,
        about := "Submission the checker was compiled for" },
      { name := "program-output", form := .path },
      { name := "input", form := .path },
      { name := "answer", form := .path }] },
  { name := some "compile"
    about := "Compile a source file into the compile directory"
    options := [
      { name := "language", form := .text },
      { name := "source", form := .path },
      { name := "id", form := .number, negative := true,
        about := "Stored as `<compile_path>/<id>.bin`, " ++
          "use the negated submission id for checkers" }] }]

/-- The level of a subcommand. -/
def subcommandLevel? (name : String) : Option Level :=
  subcommandLevels.find? (·.name == some name)

/-- The level above the subcommands. -/
def topLevel : Level where
  options := [{
    name := "config"
    form := .path
    letter := some 'c'
    about := "Path to the configuration file" }]
  subcommands := subcommandLevels.filterMap (·.name) ++ ["help"]
  versioned := true

/-- What asking for help on something by name gives. -/
def helpOn : List String → Stop
  | [] => .help none
  | [topic] => if topLevel.subcommands.contains topic then .help (some topic) else .unknownCommand
  | _ => .unknownCommand

/-- The command of a subcommand's values. -/
def commandOf (name : String) (values : List (String × String)) : Option Command := do
  let text (parameter : String) : Option String := values.lookup parameter
  let number (parameter : String) : Option Int := do
    Decimal.readInteger? Decimal.int64 (← text parameter).toList
  match name with
  | "languages" => return .languages
  | "import" => return .importTests (← number "problem-id") (← text "archive")
  | "export" => return .exportTests (← number "problem-id") (← text "output")
  | "check" => do
    let checker ← text "checker"
    let submission ← number "submission"
    return .check checker submission (← text "program-output") (← text "input") (← text "answer")
  | "compile" => return .compile (← text "language") (← text "source") (← number "id")
  | _ => none

/-- Reads a command line, whose first argument is the name of the program. -/
def read (arguments : List String) : Except Stop Request := do
  let (p, subcommand) ← topLevel.read {} arguments.tail
  match subcommand with
  | none =>
    let p ← p.settle
    throw (if p.isEmpty then .nothingGiven else .missingCommand)
  | some (name, rest) =>
    if name == "help" then throw (helpOn rest)
    let values ← ((subcommandLevel? name).getD {}).readAll rest
    let p ← p.settle
    match commandOf name values with
    | some command => return { config := p.values.lookup "config", command }
    | none => throw .missingArgument

/-! ### Help -/

/-- The name of the program. -/
def programName : String := "grader"

/-- The version of the program. -/
def programVersion : String := "0.1.0"

/-- The place of a value in help: its name in capitals. -/
def Parameter.valueName (parameter : Parameter) : String :=
  let capital (c : Char) : Char := if c == '-' then '_' else c.toUpper
  let name := String.ofList (parameter.name.toList.map capital)
  "<" ++ (if parameter.name == "config" then name ++ "_PATH" else name) ++ ">"

/-- An option with its value, the letter in front or left blank. -/
def Parameter.asOption (parameter : Parameter) : String :=
  let letter := match parameter.letter with
    | some c => String.ofList ['-', c, ',', ' ']
    | none => "    "
  letter ++ "--" ++ parameter.name ++ " " ++ parameter.valueName

/-- Lines of two columns under a heading. -/
def columns (heading : String) (rows : List (String × String)) : String :=
  let width := (rows.map (·.1.length)).foldl max 0
  let line (row : String × String) : String :=
    "  " ++ row.1 ++ String.ofList (List.replicate (width + 2 - row.1.length) ' ') ++ row.2 ++ "\n"
  if rows.isEmpty then "" else "\n" ++ heading ++ ":\n" ++ String.join (rows.map line)

/-- What the subcommand for help is about. -/
def helpAbout : String := "Print this message or the help of the given subcommand(s)"

/-- Help on a level. -/
def Level.help (level : Level) (usage : String) : String :=
  let subcommands := if level.subcommands.isEmpty then [] else
    (subcommandLevels.map fun sub => (sub.name.getD "", sub.about)) ++ [("help", helpAbout)]
  let standard := ("-h, --help", "Print help") ::
    if level.versioned then [("-V, --version", "Print version")] else []
  (if level.about.isEmpty then "" else level.about ++ "\n\n") ++
  "Usage: " ++ usage ++ "\n" ++
  columns "Commands" subcommands ++
  columns "Arguments" (level.operands.map fun operand => (operand.valueName, operand.about)) ++
  columns "Options" (level.options.map (fun option => (option.asOption, option.about)) ++ standard)

/-- Help on a subcommand. -/
def subcommandHelp (level : Level) : String :=
  let option (parameter : Parameter) : String :=
    "--" ++ parameter.name ++ " " ++ parameter.valueName
  level.help (String.intercalate " " ([programName, level.name.getD ""] ++
    level.options.map option ++ level.operands.map (·.valueName)))

/-- Help on the subcommand for help. -/
def helpOnHelp : String :=
  helpAbout ++ "\n\nUsage: " ++ programName ++ " help [COMMAND]...\n" ++
    columns "Arguments" [("[COMMAND]...", "Print help for the subcommand(s)")]

/-- What is written to the output for a stop that is no mistake. -/
def Stop.answer? : Stop → Option String
  | .help none => some (topLevel.help (programName ++ " [OPTIONS] <COMMAND>"))
  | .help (some topic) => some (((subcommandLevel? topic).map subcommandHelp).getD helpOnHelp)
  | .version => some (programName ++ " " ++ programVersion ++ "\n")
  | _ => none

/-- What is written to the errors for a stop that is a mistake. -/
def Stop.complaint (stop : Stop) : String :=
  let complain (text : String) : String := "error: " ++ text ++ "\n"
  match stop with
  | .help _ | .version => ""
  | .nothingGiven => ((Stop.help none).answer?).getD ""
  | .unknownArgument => complain "unexpected argument"
  | .unknownCommand => complain "unrecognized subcommand"
  | .missingCommand => complain "a subcommand is needed and there is none"
  | .missingArgument => complain "some needed arguments are missing"
  | .badValue => complain "a value is not of its form"
  | .noValue => complain "a value is needed and there is none"
  | .repeatedOption => complain "an option cannot be used twice"
  | .needlessValue => complain "a value is not expected"

end Judge.CommandLine
