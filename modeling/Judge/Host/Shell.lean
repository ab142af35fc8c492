import Judge.Host.Shell.Evaluation

/-!
The shell, a program of the host: it runs the commands of a text, of a file or of its input.
-/

namespace Judge.Host

namespace Shell

/-- The variables that every shell has, each with its value if there is one. -/
def givenVariables : List (String × Option String) :=
  [("HISTSIZE", none), ("TERM", none), ("OPTIND", some "1"), ("PS4", some "+ "), ("PS2", some "> "),
    ("PS1", some "# "), ("PATH", some "/usr/local/sbin:/usr/local/bin:/usr/sbin:/usr/bin:/sbin:/bin"),
    ("MAILPATH", none), ("MAIL", none), ("IFS", some " \t\n")]

/-- A shell at its start, with the variables that it is given. -/
def Session.start (name : Raw) (settings : Settings) (numbers : Nat × Nat) : Session :=
  let given : Session :=
    { name, number := numbers.1, parent := numbers.2
      values := givenVariables.map fun (name, value) =>
        (name.toList, { value := value.map (·.toList) }) }
  let taken := (settings.filter fun (name, _) => isName name).foldl (fun s (name, value) =>
    s.alter name fun v => { v with value := some value, exported := true }) given
  let fixed := [("IFS".toList, " \t\n".toList), ("OPTIND".toList, ['1']),
    ("PPID".toList, Sh.showNat numbers.2)]
  fixed.foldl (fun s (name, value) => s.alter name fun v => { v with value := some value }) taken

/-- Takes note of where the shell is: where it is told to be, if that is the same directory. -/
def findStart : Sh Unit := do
  let s ← get
  let told := match s.find? "PWD".toList with
    | some { value := some ('/' :: path), .. } => some ('/' :: path)
    | _ => none
  let isHere ← match told with
    | none => pure false
    | some path =>
      match ← Sh.ask (.look path true), ← Sh.ask (.look ['.'] true) with
      | .ok a, .ok b => pure (a.identity == b.identity)
      | _, _ => pure false
  match told, isHere with
  | some directory, true => modify fun s => { s with directory }
  | _, _ =>
    let directory ← Builtin.findPlace
    modify fun s => { s with directory, place := some directory }
  Sh.assign "PWD".toList (← get).directory true

/-- What the shell was started with: whether it runs a text. -/
structure Invocation where
  runsText : Bool := false

/-- Takes the options that the letters of an argument mean. -/
def takeLetters (on : Bool) (invocation : Invocation) :
    Raw → List Raw → Sh (Invocation × List Raw)
  | [], rest => return (invocation, rest)
  | 'c' :: letters, rest => takeLetters on { invocation with runsText := true } letters rest
  | 'l' :: letters, rest => takeLetters on invocation letters rest
  | 'o' :: letters, rest => do
    Builtin.setNamedOption on rest.head?
    takeLetters on invocation letters (rest.drop 1)
  | letter :: letters, rest => do
    Builtin.setOption on letter
    takeLetters on invocation letters rest

/-- Takes the options in front of the operands. -/
def takeOptions (invocation : Invocation) : Nat → List Raw → Sh (Invocation × List Raw)
  | 0, rest => return (invocation, rest)
  | _, [] => return (invocation, [])
  | steps + 1, argument :: rest => do
    match argument with
    | ['-'] | ['-', '-'] => return (invocation, rest)
    | '-' :: letters =>
      let (invocation, rest) ← takeLetters true invocation letters rest
      takeOptions invocation steps rest
    | '+' :: letters =>
      let (invocation, rest) ← takeLetters false invocation letters rest
      takeOptions invocation steps rest
    | _ => return (invocation, argument :: rest)

/-- Sets the name of the shell and its arguments. -/
def setArguments : List Raw → Sh Unit
  | [] => return ()
  | name :: arguments => modify fun s => { s with name, arguments }

/-- Runs the commands of a file or of the input. -/
def runFile (text : Raw) : Sh Unit := do
  let _ ← Evaluation.runText Evaluation.evaluator {} true text

/-- Runs what the arguments tell the shell to run. -/
def runArguments (arguments : List Raw) : Sh Unit := do
  modify fun s => { s with line := 0 }
  findStart
  let (invocation, operands) ← takeOptions {} (arguments.length + 1) arguments
  let readsInput := (← get).hasOption 's'
  if invocation.runsText then
    match operands with
    | [] => Sh.fail "-c requires an argument".toList
    | text :: rest =>
      setArguments rest
      let _ ← Evaluation.evaluator.text {} text
      if readsInput then runFile (Raw.ofBytes (← Evaluator.readAll 0 Sh.tries []))
  else
    match operands, readsInput with
    | path :: arguments, false =>
      let text ← Builtin.readFile path
      setArguments (path :: arguments)
      runFile text
    | operands, _ =>
      modify fun s => { s with
        arguments := operands
        options := if s.hasOption 's' then s.options else 's' :: s.options }
      runFile (Raw.ofBytes (← Evaluator.readAll 0 Sh.tries []))

end Shell

/-- The shell. -/
def shell (arguments : List Raw) (settings : Settings) : Program := do
  let numbers ← ask .number
  let s := Shell.Session.start (arguments.headD "sh".toList) settings numbers
  let e := Shell.Evaluation.evaluator
  e.childProgram (Shell.runArguments (arguments.drop 1)) s

end Judge.Host
