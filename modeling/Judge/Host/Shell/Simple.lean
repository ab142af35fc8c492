import Judge.Host.Shell.Builtin.Flow
import Judge.Host.Shell.Builtin.Names
import Judge.Host.Shell.Builtin.Processes
import Judge.Host.Shell.Builtin.Variables

/-!
Running simple commands: words with assignments in front and redirections.
-/

namespace Judge.Host.Shell

namespace Evaluation

/-- Runs a command of the shell itself. -/
def runBuiltin (e : Evaluator) (flags : Flags) (b : Builtin) (words : List Raw) : Sh Nat :=
  let arguments := words.drop 1
  match b.name with
  | ":" | "true" => pure 0
  | "false" => pure 1
  | "." => Builtin.source e arguments
  | "[" => Builtin.bracket arguments
  | "alias" => Builtin.setAliases arguments
  | "bg" | "fg" => Builtin.moveJob arguments
  | "break" => Builtin.leaveLoops false arguments
  | "cd" | "chdir" => Builtin.cd arguments
  | "command" => Builtin.command arguments
  | "continue" => Builtin.leaveLoops true arguments
  | "echo" => do
    Sh.out (Printing.echo arguments)
    return 0
  | "eval" => Builtin.eval e flags arguments
  | "exec" => Builtin.exec arguments
  | "exit" => Builtin.exit arguments
  | "export" =>
    Builtin.mark "export" (·.exported) (fun v => { v with exported := true }) arguments
  | "getopts" => Builtin.getopts arguments
  | "hash" => Builtin.hash arguments
  | "jobs" => Builtin.jobs arguments
  | "kill" => Builtin.kill arguments
  | "local" => Builtin.local_ arguments
  | "printf" => Builtin.printf arguments
  | "pwd" => Builtin.pwd arguments
  | "read" => Builtin.read arguments
  | "readonly" => Builtin.mark "readonly" (·.fixed) (fun v => { v with fixed := true }) arguments
  | "return" => Builtin.return_ arguments
  | "set" => Builtin.set_ arguments
  | "shift" => Builtin.shift arguments
  | "test" => Builtin.test arguments
  | "times" => Builtin.times
  | "trap" => Builtin.trap arguments
  | "type" => Builtin.typeEach 0 arguments
  | "ulimit" => Builtin.ulimit arguments
  | "umask" => Builtin.umask arguments
  | "unalias" => Builtin.unalias arguments
  | "unset" => Builtin.unset arguments
  | "wait" => Builtin.wait arguments
  | _ => pure 0

/-- Runs something in the name of a command, and writes what it has written. -/
def inName (name : Option Raw) (action : Sh Nat) : Sh Nat := do
  let before := (← get).command
  let restore : Sh Unit := modify fun s => { s with command := before, written := [] }
  let run : Sh Nat := do
    modify fun s => { s with command := name, written := [] }
    let status ← action
    if ← Sh.flush then return status
    else
      Sh.complain ((name.getD []) ++ ": I/O error".toList)
      return status ||| 1
  Sh.ensuring run restore

/-- Runs a function with arguments. -/
def callFunction (e : Evaluator) (flags : Flags) (body : Node) (arguments : List Raw) : Sh Nat := do
  let s ← get
  if 1000 ≤ s.depth then Sh.fail "Maximum function recursion depth (1000) reached".toList
  set { s with
    arguments, loops := 0, depth := s.depth + 1
    optionIndex := 1, optionOffset := none }
  let restore : Sh Unit := modify fun after => { after with
    arguments := s.arguments, loops := s.loops, depth := s.depth
    optionIndex := s.optionIndex, optionOffset := s.optionOffset
    skip := match after.skip with
      | .return _ => .none
      | skip => skip }
  Sh.ensuring (do
    let _ ← e.node { flags with exit := false } (some body)
    return (← get).status) restore

/-- Traces words. -/
def trace (e : Evaluator) (assignments words : List Raw) : Sh Unit := do
  let s ← get
  if s.hasOption 'x' && !s.tracing then
    let prompt := (s.value? "PS4".toList).getD []
    modify fun s => { s with tracing := true }
    let shown ← e.expandPrompt prompt
    modify fun s => { s with tracing := false }
    let text := ((assignments ++ words).intersperse [' ']).flatten
    Sh.say (← get).traceTo (shown ++ text ++ ['\n'])

/-- Expands words up to the first one that becomes anything. -/
def expandFirst (e : Evaluator) : List Word → Sh (List Raw × List Word)
  | [] => return ([], [])
  | word :: rest => do
    let found ← e.expandFields word
    if found.isEmpty then expandFirst e rest else return (found, rest)

/-- Expands the rest of the words. Those that look like assignments are not split if the command
takes assignments. -/
def expandRest (e : Evaluator) (assigns : Bool) : List Word → Sh (List Raw)
  | [] => return []
  | word :: rest => do
    let found ← if assigns && (assignedName? word).isSome then
        do pure [← e.expandText { assignment := true } word]
      else e.expandFields word
    return found ++ (← expandRest e assigns rest)

/-- Makes sure that there is a word at a place, expanding more words as far as that takes. -/
def expandUpTo (e : Evaluator) (place : Nat) (words : List Raw) :
    List Word → Sh (List Raw × List Word)
  | [] => return (words, [])
  | word :: rest => do
    if place < words.length then return (words, word :: rest)
    else expandUpTo e place (words ++ (← e.expandFields word)) rest

/-- What the words of a command come down to. -/
structure Head where
  /-- A function or a command of the shell itself. -/
  target : Option Target := none
  /-- The first command of the shell itself among its names. -/
  first : Option Builtin := none
  words : List Raw := []
  /-- The words that are not expanded yet. -/
  rest : List Word := []
  /-- Whether functions count. -/
  functions : Bool := true
  /-- Where programs are looked for, if not in the usual place. -/
  path : Option Raw := none

/-- Drops `command` and its options from a place on, none if it is not to run anything. -/
def dropCommand (e : Evaluator) (place : Nat) (head : Head) : Nat → Sh (Head × Bool)
  | 0 => return (head, false)
  | steps + 1 => do
    let (words, rest) ← expandUpTo e place head.words head.rest
    let head := { head with words, rest }
    let stopAt (place : Nat) (head : Head) : Head × Bool :=
      ({ head with words := head.words.drop place, functions := false }, true)
    match words[place]? with
    | none => return (head, false)
    | some ['-', '-'] =>
      let (words, rest) ← expandUpTo e (place + 1) words rest
      let head := { head with words, rest }
      return if place + 1 < words.length then stopAt (place + 1) head else (head, false)
    | some ('-' :: c :: letters) =>
      if (c :: letters).all (· == 'p') then
        dropCommand e (place + 1) { head with path := some Lookup.standardPath } steps
      else return (head, false)
    | some _ => return stopAt place head

/-- Finds out what the first words of a command mean. -/
def findHead (e : Evaluator) (head : Head) : Nat → Sh Head
  | 0 => return head
  | steps + 1 => do
    match head.words with
    | [] => return head
    | name :: _ =>
      let target := Lookup.findOwn head.functions name (← get)
      let head := { head with target }
      match target with
      | some (.builtin b) =>
        let head := { head with first := head.first.or (some b) }
        if b.name ≠ "command" then return head
        else
          let (head, goesOn) ← dropCommand e 1 head Sh.tries
          if goesOn then findHead e head steps else return head
      | _ => return head

/-- Does the assignments in front of a command. The result is what they are. -/
def assignAll (e : Evaluator) (isLocal exported : Bool) : List Word → Sh (List Raw)
  | [] => return []
  | word :: rest => do
    let text ← e.expandText { assignment := true } word
    let (name, value) := Builtin.splitAssignment text
    if isLocal then Sh.makeLocal name
    Sh.assign name (value.getD []) (isLocal || exported)
    return text :: (← assignAll e isLocal exported rest)

/-- Closes scopes until so many are left. -/
def closeScopes (left : Nat) : Nat → Sh Unit
  | 0 => return ()
  | steps + 1 => do
    if left < (← get).scopes.length then
      Sh.closeScope
      closeScopes left steps

/-- Runs a command of the shell itself. Its failure stops what runs it only if it is special. -/
def runOwn (special : Bool) (name : Option Raw)
    (action : Sh Nat) : Sh Nat :=
  Sh.orElse (inName name action) fun
    | .failure => if special then Sh.stop .failure else do return (← get).status
    | reason => Sh.stop reason

/-- Runs a program in a process of its own, or in place of the shell. -/
def runProgram (flags : Flags) (path : Option Raw) (index : Option Nat) (words : List Raw) :
    Sh Nat := do
  if flags.exit && !Sh.hasTraps (← get) then Lookup.becomeProgram path index words
  else
    let job ← Sh.makeJob
    let _ ← Sh.start (some job) false fun s =>
      (Lookup.becomeProgram path index words : Sh Unit) s (fun _ s => .done s.status)
        fun _ s => .done s.status
    Sh.finish job

/-- Runs what the words of a command mean. The result tells whether it was found. -/
def runHead (e : Evaluator) (flags : Flags) (head : Head) (words : List Raw) : Sh (Bool × Nat) := do
  let special := head.first.any (·.special)
  let name := words.head?
  let target ← match head.target, words with
    | some (.builtin b), name :: _ =>
      if b.regular then pure (.builtin b) else Lookup.find head.functions head.path name
    | _, name :: _ => Lookup.find head.functions head.path name
    | _, [] => pure (.unknown .missing)
  match words, target with
  | [], _ => return (true, ← runOwn false none (do return (← get).substituted))
  | _, .builtin b => return (true, ← runOwn special name (runBuiltin e flags b words))
  | _, .function body => return (true, ← callFunction e flags body (words.drop 1))
  | _, .program index => return (true, ← runProgram flags head.path index words)
  | name :: _, .unknown cause =>
    Sh.complain (name ++ ": ".toList ++ Lookup.wordingOf cause)
    return (false, 127)

/-- Where traces go while standard error is redirected. -/
def traceTarget (s : Session) : Nat :=
  match (s.redirected.head?.bind (·.lookup 2)) with
  | some (.kept descriptor) => descriptor
  | _ => 2

/-- Runs a simple command. -/
def runSimple (e : Evaluator) (flags : Flags) (assignments words : List Word)
    (redirections : List Redirection) : Sh Nat := do
  let before ← get
  set { before with substituted := 0 }
  let (found, rest) ← expandFirst e words
  let head ← findHead e { words := found, rest } Sh.tries
  let assigns := match head.target with
    | some (.builtin b) => b.assigns
    | _ => false
  let words := head.words ++ (← expandRest e assigns head.rest)
  let special := head.first.any (·.special)
  let isExec := match head.target with
    | some (.builtin b) => b.name == "exec"
    | _ => false
  let isLocal := !words.isEmpty && !special
  if isLocal then Sh.openScope
  let reroutings ← Redirection.expandAll e.substitute redirections
  if !redirections.isEmpty then Redirection.push
  let failure ← Redirection.applySafely reroutings
  let (isFound, status) ← if failure ≠ 0 then pure (false, failure)
    else do
      modify fun s => { s with
        traceTo := if redirections.isEmpty then 2 else traceTarget s }
      let assigned ← assignAll e isLocal (isExec && 1 < words.length) assignments
      trace e assigned words
      runHead e flags head words
  if !isFound then
    modify fun s => { s with status }
    if special then Sh.stop .failure
  if !redirections.isEmpty && (← get).redirected.length = before.redirected.length + 1 then
    Redirection.pop isExec
  Redirection.unwind before.redirected.length
  closeScopes before.scopes.length Sh.tries
  return status

end Evaluation
end Judge.Host.Shell
