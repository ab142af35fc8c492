import Judge.Host.Permission
import Judge.Host.Shell.Options
import Judge.Host.Shell.Process

/-!
Commands of the shell on processes: jobs, signals and their traps, and limits.
-/

namespace Judge.Host.Shell.Builtin

/-- The number that a text of digits is. -/
def digits? (text : Raw) : Option Nat :=
  if !text.isEmpty && text.all Char.isDigit then (String.ofList text).toNat? else none

/-- The signal with a number or a name, the least number being given for names. -/
def signal? (least : Nat) (text : Raw) : Option Nat :=
  match digits? text with
  | some n => if n ≤ Signal.last then some n else none
  | none =>
    ((List.range (Signal.last + 1)).drop least).find? fun n =>
      (Signal.allNames[n]?.map fun name => name.toList.map Char.toUpper) ==
        some (text.map Char.toUpper)

/-- The name of a signal. -/
def signalName (signal : Nat) : Raw := (Signal.allNames[signal]?.getD "").toList

/-- Lists the traps. -/
def listTraps : Sh Unit := do
  let s ← get
  Sh.forEach (fun signal =>
    match s.traps.lookup signal with
    | none => pure ()
    | some action =>
      Sh.out ("trap -- ".toList ++ Sh.quote action ++ ' ' :: signalName signal ++ ['\n']))
    (List.range (Signal.last + 1))

/-- Sets the traps of signals. -/
def setTraps (action : Option Raw) : List Raw → Sh Nat
  | [] => return 0
  | name :: rest => do
    match signal? 0 name with
    | none =>
      Sh.say 2 ("trap: ".toList ++ name ++ ": bad trap\n".toList)
      return 1
    | some signal =>
      modify fun s =>
        let others := s.traps.filter (·.1 ≠ signal)
        { s with traps := match action with
            | none => others
            | some action => (signal, action) :: others }
      if signal ≠ 0 then Sh.arm signal
      setTraps action rest

/-- Sets what is done on signals, or lists it. -/
def trap (arguments : List Raw) : Sh Nat := do
  let (_, operands) ← Sh.options "" "" arguments
  match operands with
  | [] =>
    listTraps
    return 0
  | [name] => setTraps none [name]
  | action :: names =>
    if ((digits? action).bind fun _ => signal? 0 action).isSome then setTraps none operands
    else setTraps (if action == ['-'] then none else some action) names

/-- The job that an operand means. -/
def findJob (text : Raw) : Sh Job := do
  let s ← get
  let check (found : Option Job) (message : Raw) : Sh Job :=
    match found with
    | some job => return job
    | none => Sh.fail message
  match text with
  | ['%'] | ['%', '+'] | ['%', '%'] => check s.jobs.head? "No current job".toList
  | ['%', '-'] => check (s.jobs.drop 1).head? "No previous job".toList
  | _ =>
    let number := match text with
      | '%' :: digits => digits? digits
      | _ => none
    check (number.bind fun n => s.jobs.find? (·.number == n)) ("No such job: ".toList ++ text)

/-- Notes all processes that have ended. -/
def reapAll : Nat → Sh Unit
  | 0 => return ()
  | steps + 1 => do
    match ← Sh.reap false none with
    | some (.child _ _) => reapAll steps
    | _ => return ()

/-- How a job is shown. -/
structure Listing where
  numbersOnly : Bool := false
  withNumbers : Bool := false

/-- Shows a job. -/
def showJob (listing : Listing) (rank : Nat) (job : Job) : Sh Unit := do
  let numbers := job.processes.map fun (n, _) => Sh.showNat n
  if listing.numbersOnly then Sh.out (numbers.headD [] ++ ['\n'])
  else
    let mark := if rank = 0 then '+' else if rank = 1 then '-' else ' '
    let front := '[' :: Sh.showNat job.number ++ [']', ' ', mark, ' ']
    let state := match job.processes.getLast?.bind (·.2) with
      | some ending =>
        if Sh.isOver job then
          match ending with
          | .exited 0 => "Done".toList
          | .exited status => "Done(".toList ++ Sh.showNat status ++ [')']
          | .signaled signal => (Signal.description signal).toList
        else "Running".toList
      | none => "Running".toList
    let padded (text : Raw) : Raw := text ++ List.replicate (33 - text.length) ' '
    if listing.withNumbers then
      let first := front ++ numbers.headD [] ++ ' ' :: state
      Sh.out (padded first)
      Sh.forEach (fun number =>
        Sh.out (padded (" |\n".toList ++ List.replicate front.length ' ' ++ number ++ [' '])))
        (numbers.drop 1)
      Sh.out ['\n']
    else
      let more := (numbers.drop 1).flatMap fun _ => " | ".toList
      Sh.out (padded (front ++ state) ++ more ++ ['\n'])

/-- Shows jobs, and forgets those that are over. -/
def jobs (arguments : List Raw) : Sh Nat := do
  let (options, operands) ← Sh.options "lp" "" arguments
  let listing : Listing := match options.getLast? with
    | some { letter := 'p', .. } => { numbersOnly := true }
    | some _ => { withNumbers := true }
    | none => {}
  reapAll Sh.tries
  let wanted ← if operands.isEmpty then pure (← get).jobs else operands.mapM findJob
  Sh.forEach (fun job => do
    showJob listing ((← get).jobs.findIdx (·.number == job.number)) job
    if Sh.isOver job then
      modify fun s => { s with jobs := s.jobs.filter (·.number != job.number) }) wanted
  return 0

/-- Moves a job, which cannot be done without a terminal. -/
def moveJob (arguments : List Raw) : Sh Nat := do
  let (_, operands) ← Sh.options "" "" arguments
  let shown := operands.headD "(null)".toList
  let _ ← findJob (operands.headD ['%'])
  Sh.fail ("job ".toList ++ shown ++ " not created under job control".toList)

/-- Waits until a process has ended, or a signal comes. -/
def awaitAny (job : Option Nat) : Sh Bool := do
  match ← Sh.reap true job with
  | some .interrupted =>
    Sh.notice
    return (← get).pending.isEmpty
  | _ => return true

/-- Waits until jobs are over; none if a signal comes first. -/
def awaitJobs (isWanted : Job → Bool) (job : Option Nat) : Nat → Sh (Option Unit)
  | 0 => return some ()
  | steps + 1 => do
    let s ← get
    if s.jobs.all fun j => !isWanted j || Sh.isOver j then return some ()
    else if ← awaitAny job then awaitJobs isWanted job steps
    else return none

/-- The status that stands for the signal that came. -/
def interruptedStatus : Sh Nat := do return 128 + (← get).pending.getLastD 0

/-- Waits for what the operands mean, one after the other. -/
def waitEach (status : Nat) : List Raw → Sh Nat
  | [] => return status
  | text :: rest => do
    let job ← if text.head? == some '%' then some <$> findJob text
      else do
        let process ← Sh.number text
        pure ((← get).jobs.find? fun j => (j.processes.getLast?.map (·.1)) == some process)
    match job with
    | none => waitEach status rest
    | some job =>
      match ← awaitJobs (·.number == job.number) (some job.number) Sh.tries with
      | none => interruptedStatus
      | some _ =>
        Sh.alterJob job.number fun j => { j with waited := true }
        let status := (((← get).jobs.find? (·.number == job.number)).map Sh.jobStatus).getD status
        waitEach status rest

/-- Waits for processes. -/
def wait (arguments : List Raw) : Sh Nat := do
  let (_, operands) ← Sh.options "" "" arguments
  if operands.isEmpty then
    match ← awaitJobs (fun _ => true) none Sh.tries with
    | none => interruptedStatus
    | some _ =>
      modify fun s => { s with jobs := s.jobs.map fun j => { j with waited := true } }
      return 0
  else waitEach 127 operands

/-- Complains about how `kill` was called. -/
def killUsage {α : Type} : Sh α :=
  Sh.fail ("Usage: kill [-s sigspec | -signum | -sigspec] [pid | job]... or\n" ++
    "kill -l [exitstatus]").toList

/-- Names signals. -/
def nameSignals : List Raw → Sh Nat
  | [] => do
    Sh.out "0\n".toList
    Sh.forEach (fun n => Sh.out (signalName (n + 1) ++ ['\n'])) (List.range Signal.last)
    return 0
  | text :: _ => do
    let n ← Sh.number text
    let signal := if 128 < n then n - 128 else n
    if 0 < signal && signal ≤ Signal.last then
      Sh.out (signalName signal ++ ['\n'])
      return 0
    else Sh.fail ("invalid signal number or exit status: ".toList ++ text)

/-- Sends a signal to processes, one after the other. -/
def sendTo (signal : Nat) (status : Nat) : List Raw → Sh Nat
  | [] => return status
  | text :: rest => do
    let target : Int ← match text with
      | '%' :: _ => do
        let job ← findJob text
        pure (-(((job.processes.head?.map (·.1)).getD 0 : Nat) : Int))
      | '-' :: digits => do pure (-((← Sh.number digits : Nat) : Int))
      | _ => do pure ((← Sh.number text : Nat) : Int)
    match ← Sh.ask (.kill target signal) with
    | .ok _ => sendTo signal status rest
    | .error cause =>
      Sh.complain (wording cause ++ ['\n'])
      sendTo signal 1 rest

/-- The signal that options give, and whether signals are to be named. -/
def killOptions : List GivenOption → Option Nat → Bool → Sh (Option Nat × Bool)
  | [], signal, named => return (signal, named)
  | option :: rest, signal, named => do
    if option.letter == 'l' then killOptions rest signal true
    else
      match signal? 1 option.value with
      | some n => killOptions rest (some n) named
      | none => Sh.fail ("invalid signal number or name: ".toList ++ option.value)

/-- Sends signals, or names them. -/
def kill (arguments : List Raw) : Sh Nat := do
  let start : Option (Option Nat × Bool × List Raw) ← match arguments with
    | [] => pure none
    | ('-' :: name) :: rest =>
      match signal? 1 name with
      | some signal => pure (some (some signal, false, rest))
      | none => do
        let (options, operands) ← Sh.options "l" "s" arguments
        let (signal, named) ← killOptions options none false
        pure (some (signal, named, operands))
    | _ => pure (some (none, false, arguments))
  match start with
  | none => killUsage
  | some (signal, true, operands) =>
    if signal.isSome && !operands.isEmpty then killUsage else nameSignals operands
  | some (signal, false, operands) =>
    if operands.isEmpty then killUsage
    else
      let status ← sendTo (signal.getD Signal.terminate) 0 operands
      Sh.notice
      return status

/-- Shows the permissions that new files do not get, or sets them. -/
def umask (arguments : List Raw) : Sh Nat := do
  let (options, operands) ← Sh.options "S" "" arguments
  let mask ← Sh.ask (.setMask 0)
  let _ ← Sh.ask (.setMask mask)
  match operands with
  | [] =>
    if options.isEmpty then
      let text := Nat.toDigits 8 mask
      Sh.out (List.replicate (4 - text.length) '0' ++ text ++ ['\n'])
    else
      let mode := Permission.without Permission.all mask
      Sh.out ("u=".toList ++ Permission.lettersOf (mode / 64) ++ ",g=".toList ++
        Permission.lettersOf (mode / 8) ++ ",o=".toList ++ Permission.lettersOf mode ++ ['\n'])
    return 0
  | text :: _ =>
    if text.isEmpty then return 0
    if text.head?.any Char.isDigit then
      match Permission.octal? text with
      | none => Sh.fail ("Illegal number: ".toList ++ text)
      | some mask =>
        let _ ← Sh.ask (.setMask (mask % 512))
        return 0
    else
      let mode := Permission.without Permission.all mask
      match Permission.changed? 0 (fun mode => mode &&& 0o111 != 0) mode text with
      | none => Sh.fail ("Illegal mode: ".toList ++ text)
      | some mode =>
        let _ ← Sh.ask (.setMask (Permission.without Permission.all mode))
        return 0

/-- The limits by letter, each with its title and unit. -/
def limits : List (Char × Resource × String × Nat) :=
  [('t', .processor, "time(seconds)", 1), ('f', .fileSize, "file(blocks)", 512),
    ('d', .data, "data(kbytes)", 1024), ('s', .stack, "stack(kbytes)", 1024),
    ('c', .core, "coredump(blocks)", 512), ('m', .resident, "memory(kbytes)", 1024),
    ('l', .locked, "locked memory(kbytes)", 1024), ('p', .processes, "process", 1),
    ('n', .openFiles, "nofiles", 1), ('v', .memory, "vmemory(kbytes)", 1024),
    ('w', .locks, "locks", 1), ('r', .priority, "rtprio", 1)]

/-- A limit as text. -/
def showLimit (hard : Bool) (unit : Nat) (limit : Limit) : Raw :=
  match if hard then limit.hard else limit.soft with
  | none => "unlimited\n".toList
  | some n => Sh.showNat (n / unit) ++ ['\n']

/-- The limit that an operand gives; none in it for no limit. -/
def readLimit (unit : Nat) (text : Raw) : Sh (Option Nat) := do
  if text == "unlimited".toList then return none
  if !text.all Char.isDigit then Sh.fail "bad number".toList
  return some ((digits? text).getD 0 * unit)

/-- Shows limits or sets one. -/
def ulimit (arguments : List Raw) : Sh Nat := do
  let (options, operands) ← Sh.options "HSatfdscmlpnvwr" "" arguments
  let letters := options.map (·.letter)
  let how := (letters.filter fun c => c == 'H' || c == 'S').getLast?
  let what := (letters.filter fun c => c != 'H' && c != 'S' && c != 'a').getLastD 'f'
  let (resource, _, unit) := (limits.lookup what).getD (.fileSize, "", 512)
  let isHard := how == some 'H'
  match operands with
  | [] =>
    if letters.contains 'a' then
      Sh.forEach (fun (_, resource, title, unit) => do
        let limit ← Sh.ask (.limit resource)
        Sh.out (title.toList ++ List.replicate (20 - title.length) ' ' ++
          ' ' :: showLimit isHard unit limit)) limits
    else
      let limit ← Sh.ask (.limit resource)
      Sh.out (showLimit isHard unit limit)
    return 0
  | text :: more =>
    if letters.contains 'a' || !more.isEmpty then Sh.fail "too many arguments".toList
    let n ← readLimit unit text
    let old ← Sh.ask (.limit resource)
    let new : Limit :=
      { soft := if isHard then old.soft else n, hard := if how == some 'S' then old.hard else n }
    match ← Sh.ask (.setLimit resource new) with
    | .ok _ => return 0
    | .error cause =>
      Sh.fail ("error setting limit (".toList ++ wording cause ++ [')'])

/-- Shows the time that was used. -/
def times : Sh Nat := do
  Sh.out "0m0.000000s 0m0.000000s\n0m0.000000s 0m0.000000s\n".toList
  return 0

end Judge.Host.Shell.Builtin
