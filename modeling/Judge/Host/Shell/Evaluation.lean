import Judge.Host.Shell.Simple

/-!
Running the commands of a shell: lists, loops, choices, pipelines, and texts.
-/

namespace Judge.Host.Shell

namespace Evaluation

/-- What is passed over after a loop's round: the loop is left if the result is set. -/
def leavesLoop : Sh Bool := do
  let s ← get
  match s.skip with
  | .none => return false
  | .leave n =>
    set { s with skip := if n ≤ 1 then .none else .leave (n - 1) }
    return true
  | .again n =>
    set { s with skip := if n ≤ 1 then .none else .again (n - 1) }
    return 1 < n
  | .return _ => return true

/-- Runs the body of a loop for each word. -/
def runEach (e : Evaluator) (flags : Flags) (name : Raw) (body : Node) (status : Nat) :
    List Raw → Sh Nat
  | [] => return status
  | word :: rest => do
    Sh.assign name word false
    let status ← e.node flags (some body)
    if ← leavesLoop then return status else runEach e flags name body status rest

/-- Runs the body of a loop as long as its test does not end it. -/
def runLoop (e : Evaluator) (flags : Flags) (untilTrue : Bool) (test body : Node) (status : Nat) :
    Nat → Sh Nat
  | 0 => return status
  | steps + 1 => do
    let found ← e.node { tested := true } (some test)
    let skip := (← get).skip
    if skip ≠ .none then
      let status := if skip matches .return _ then found else status
      if ← leavesLoop then return status
      else runLoop e flags untilTrue test body status steps
    else if (found = 0) = untilTrue then return status
    else
      let status ← e.node flags (some body)
      if ← leavesLoop then return status
      else runLoop e flags untilTrue test body status steps

/-- Does something inside of a loop. -/
def inLoop (action : Sh Nat) : Sh Nat := do
  modify fun s => { s with loops := s.loops + 1 }
  let status ← action
  modify fun s => { s with loops := s.loops - 1 }
  return status

/-- Whether one of some patterns fits a text. -/
def anyFits (e : Evaluator) (text : Raw) : List Word → Sh Bool
  | [] => return false
  | word :: rest => do
    let pattern ← Expansion.expandPattern e.substitute word
    if pattern.fits text then return true else anyFits e text rest

/-- Runs the first branch that fits a text. -/
def runBranches (e : Evaluator) (flags : Flags) (text : Raw) : List Branch → Sh Nat
  | [] => return 0
  | .mk patterns body :: rest => do
    if ← anyFits e text patterns then
      match body with
      | some body => e.node flags (some body)
      | none => return 0
    else runBranches e flags text rest

/-- Runs a command in a copy of the shell. -/
def runInner (e : Evaluator) (flags : Flags) (inBackground : Bool) (body : Node)
    (redirections : List Redirection) : Sh Nat := do
  let reroutings ← Redirection.expandAll e.substitute redirections
  if !inBackground && flags.exit && !Sh.hasTraps (← get) then
    Sh.becomeInner
    Redirection.applyAll false reroutings
    e.node flags (some body)
  else
    let job ← Sh.makeJob
    let inner : Flags := { exit := true, tested := flags.tested && !inBackground }
    let child : Sh Unit := do
      Redirection.applyAll false reroutings
      let _ ← e.node inner (some body)
    let _ ← Sh.start (some job) inBackground (e.childProgram child)
    if inBackground then return 0 else Sh.finish job

/-- Looks for the program of a command in advance, so that the shell remembers where it is. -/
def lookAhead : Node → Sh Unit
  | .simple _ _ (word :: _) _ => do
    match literal? word with
    | some name =>
      if isName name then
        let _ ← Lookup.find true none name
    | none => pure ()
  | _ => return ()

/-- Starts the commands of a pipeline, the first of which reads from a descriptor if there is one. -/
def startPiped (e : Evaluator) (flags : Flags) (inBackground : Bool) (job : Nat)
    (source : Option Nat) : List Node → Sh Unit
  | [] => return ()
  | command :: rest => do
    lookAhead command
    let pipe ← if rest.isEmpty then pure none else some <$> Sh.ask .pipe
    let connect : Sh Unit := do
      match pipe with
      | some (reader, _) => let _ ← Sh.ask (.close reader)
      | none => pure ()
      match source with
      | some source =>
        if 0 < source then
          let _ ← Sh.ask (.duplicateTo source 0)
          let _ ← Sh.ask (.close source)
      | none => pure ()
      match pipe with
      | some (_, writer) =>
        if 1 < writer then
          let _ ← Sh.ask (.duplicateTo writer 1)
          let _ ← Sh.ask (.close writer)
      | none => pure ()
    let child : Sh Unit := do
      connect
      let _ ← e.node { flags with exit := true } (some command)
    let _ ← Sh.start (some job) inBackground (e.childProgram child)
    match source with
    | some source => let _ ← Sh.ask (.close source)
    | none => pure ()
    match pipe with
    | some (_, writer) => let _ ← Sh.ask (.close writer)
    | none => pure ()
    startPiped e flags inBackground job (pipe.map (·.1)) rest

/-- Runs a pipeline. -/
def runPipe (e : Evaluator) (flags : Flags) (inBackground : Bool) (commands : List Node) :
    Sh Nat := do
  let job ← Sh.makeJob
  startPiped e flags inBackground job none commands
  if inBackground then return 0 else Sh.finish job

/-- Notes the line of a command. -/
def setLine (line : Nat) : Sh Unit := do
  if 0 < line then modify fun s => { s with line }

/-- Runs a command with redirections. -/
def runRedirected (e : Evaluator) (flags : Flags) (body : Node)
    (redirections : List Redirection) : Sh Nat := do
  let reroutings ← Redirection.expandAll e.substitute redirections
  Redirection.push
  let failure ← Redirection.applySafely reroutings
  let status ← if failure ≠ 0 then pure failure
    else e.node { flags with exit := false } (some body)
  Redirection.pop false
  return status

/-- Runs a command. The result is its status, none for the one that there is, and whether a failure
counts for option `e`. -/
def runKind (e : Evaluator) (flags : Flags) : Node → Sh (Option Nat × Bool)
  | .simple line assignments words redirections => do
    setLine line
    return (some (← runSimple e flags assignments words redirections), true)
  | .pipe inBackground commands => do return (some (← runPipe e flags inBackground commands), true)
  | .redirected line body redirections => do
    setLine line
    return (some (← runRedirected e flags body redirections), false)
  | .background line body redirections => do
    setLine line
    return (some (← runInner e flags true body redirections), true)
  | .subshell line body redirections => do
    setLine line
    return (some (← runInner e flags false body redirections), true)
  | .both first second => do
    let status ← e.node { tested := true } (some first)
    if status ≠ 0 || (← get).skip ≠ .none then return (none, false)
    else return (some (← e.node flags (some second)), false)
  | .either first second => do
    let status ← e.node { tested := true } (some first)
    if status = 0 || (← get).skip ≠ .none then return (none, false)
    else return (some (← e.node flags (some second)), false)
  | .sequence first second => do
    let _ ← e.node { flags with exit := false } (some first)
    if (← get).skip ≠ .none then return (none, false)
    else return (some (← e.node flags (some second)), false)
  | .negation body => do
    let status ← e.node { tested := true } (some body)
    return (some (if status = 0 then 1 else 0), false)
  | .condition test success failure => do
    let status ← e.node { tested := true } (some test)
    if (← get).skip ≠ .none then return (none, false)
    else if status = 0 then return (some (← e.node flags (some success)), false)
    else match failure with
      | some failure => return (some (← e.node flags (some failure)), false)
      | none => return (some 0, false)
  | .loop untilTrue test body => do
    let flags := { flags with exit := false }
    return (some (← inLoop (runLoop e flags untilTrue test body 0 Sh.tries)), false)
  | .each line name words body => do
    setLine line
    let words ← match words with
      | none => do pure (← get).arguments
      | some words => expandRest e false words
    return (some (← inLoop (runEach e { flags with exit := false } name body 0 words)), false)
  | .choice line word branches => do
    setLine line
    let text ← e.expandText { tilde := true } word
    return (some (← runBranches e flags text branches), false)
  | .define name body => do
    modify fun s => { s with
      functions := (name, body) :: s.functions.filter (·.1 != name) }
    return (some 0, false)

/-- Runs a command, with the traps of signals before and after it. -/
def runNode (e : Evaluator) (flags : Flags) (node : Option Node) : Sh Nat := do
  match if (← get).hasOption 'n' then none else node with
  | none => pure ()
  | some node =>
    e.checkTraps
    let (status, isChecked) ← runKind e flags node
    match status with
    | some status => modify fun s => { s with status }
    | none => pure ()
    let s ← get
    if isChecked then
      if s.hasOption 'e' && !flags.tested && s.status ≠ 0 then Sh.stop .finish
      Sh.notice
    e.checkTraps
  if flags.exit then Sh.stop .finish
  return (← get).status

/-- Notes what reading has left behind. -/
def keepDocuments (r : Reader) : Sh Unit := modify fun s =>
  { s with documents := r.documents ++ s.documents, nextDocument := r.nextDocument }

/-- Runs what a reader reads, command by command. Lines of a file are shown if option `v` is set. -/
def runReader (e : Evaluator) (flags : Flags) (ofFile : Bool) (status : Nat) (r : Reader) :
    Nat → Sh Nat
  | 0 => return status
  | steps + 1 => do
    let s ← get
    let r := { r with aliases := s.aliases, nextDocument := s.nextDocument, documents := [] }
    match readCommands r with
    | .error .tooDeep => Sh.abort Signal.segment
    | .error (.complaint line message) =>
      set { s with line }
      Sh.fail ("Syntax error: " ++ message).toList
    | .ok (found, after) =>
      keepDocuments after
      if ofFile && s.hasOption 'v' then Sh.say 2 (r.rest.take (r.left - after.left))
      match found with
      | none => return status
      | some node =>
        let result ← e.node { flags with exit := false } node
        let status := if node.isSome then result else status
        if (← get).skip ≠ .none then return status
        else runReader e flags ofFile status after steps

/-- Runs a text. -/
def runText (e : Evaluator) (flags : Flags) (ofFile : Bool) (text : Raw) : Sh Nat :=
  runReader e flags ofFile 0 (Reader.ofText text [] 0) Sh.tries

/-- Something to be run. -/
inductive Task where
  | node (flags : Flags) (node : Option Node)
  | text (flags : Flags) (text : Raw)

/-- Runs something, with so many levels of commands inside of each other. -/
def perform : Nat → Task → Sh Nat
  | 0, _ => Sh.abort Signal.segment
  | depth + 1, task =>
    let e : Evaluator :=
      { node := fun flags node => perform depth (.node flags node)
        text := fun flags text => perform depth (.text flags text) }
    match task with
    | .node flags node => runNode e flags node
    | .text flags text => runText e flags false text

/-- How many levels of commands there may be. -/
def levels : Nat := 60000

/-- The evaluation of commands. -/
def evaluator : Evaluator where
  node flags node := perform levels (.node flags node)
  text flags text := perform levels (.text flags text)

end Evaluation
end Judge.Host.Shell
