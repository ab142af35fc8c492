import Judge.Host.Machine.Signal
import Judge.Host.Shell.Session

/-!
The processes of a shell: copies of it, waiting for them, and the signals that it is told of.
-/

namespace Judge.Host.Shell.Sh

/-- Puts the number of a signal into a list that is kept in order. -/
def insertSignal (signal : Nat) : List Nat → List Nat
  | [] => [signal]
  | other :: rest =>
    if signal < other then signal :: other :: rest
    else if signal = other then other :: rest
    else other :: insertSignal signal rest

/-- Takes note of the signals that came. -/
def notice : Sh Unit := do
  let caught ← ask .work
  if !caught.isEmpty then
    modify fun s => { s with
      pending := caught.foldl (fun all signal => insertSignal signal all) s.pending }

/-- Brings what happens on a signal in line with its trap. A signal that was ignored from the start
stays ignored. -/
def arm (signal : Nat) : Sh Unit := do
  let s ← get
  if s.locked.contains signal then return ()
  let disposition : Disposition := match s.traps.lookup signal with
    | none => .usual
    | some action => if action.isEmpty then .ignored else .caught
  let old ← ask (.handle signal disposition)
  if old = .ignored && !s.handled.contains signal then
    let _ ← ask (.handle signal .ignored)
    set { s with locked := signal :: s.locked }
  else set { s with handled := signal :: s.handled.filter (· != signal) }

/-- Has a signal ignored for good. -/
def lock (signal : Nat) : Sh Unit := do
  let _ ← ask (.handle signal .ignored)
  modify fun s => { s with locked := signal :: s.locked }

/-- Whether there is a trap that does something. -/
def hasTraps (s : Session) : Bool := s.traps.any fun (_, action) => !action.isEmpty

/-- Does something with each member of a list. -/
def forEach {α : Type} (action : α → Sh Unit) : List α → Sh Unit
  | [] => return ()
  | a :: rest => do
    action a
    forEach action rest

/-- Makes the shell a part of another one: what it traps and what it has started is not its own. -/
def becomeInner : Sh Unit := do
  let s ← get
  let (own, kept) := s.traps.partition fun (_, action) => !action.isEmpty
  set { s with
    traps := kept, jobs := [], inner := true, redirected := [], pending := [], written := [] }
  forEach arm ((own.map (·.1)).filter (0 < ·))

/-- The number of a new job. -/
def nextJob (s : Session) : Nat :=
  ((List.range (s.jobs.length + 1)).map (· + 1)).find?
    (fun n => s.jobs.all (·.number != n)) |>.getD 1

/-- Makes a job. Those whose end is known are forgotten. -/
def makeJob : Sh Nat := do
  let s ← get
  let s := { s with jobs := s.jobs.filter (!·.waited) }
  let number := nextJob s
  set { s with jobs := { number } :: s.jobs }
  return number

/-- Changes a job. -/
def alterJob (number : Nat) (change : Job → Job) : Sh Unit := modify fun s =>
  { s with jobs := s.jobs.map fun job => if job.number = number then change job else job }

/-- Starts a copy of the shell as a part of a job, if there is one. In the background it cannot be
interrupted, and the first one of a job reads nothing. -/
def start (job : Option Nat) (inBackground : Bool) (child : Session → Program) : Sh Nat := do
  let s ← get
  let isFirst := (s.jobs.find? fun j => some j.number == job).any (·.processes.isEmpty)
  let prepared : Sh Unit := do
    becomeInner
    if inBackground then
      lock Signal.interrupt
      lock Signal.quit
      if isFirst then
        let _ ← ask (.close 0)
        let _ ← ask (.openFile "/dev/null".toList .read)
  let number ← fork fun s => prepared s (fun _ s => child s) (fun _ s => child s)
  match job with
  | none => pure ()
  | some job => alterJob job fun j => { j with processes := j.processes ++ [(number, none)] }
  if inBackground then modify fun s => { s with background := some number }
  return number

/-- Notes how a process has ended. The result is its job. -/
def note (process : Nat) (ending : Ending) : Sh (Option Nat) := do
  let job := (← get).jobs.find? fun j => j.processes.any (·.1 == process)
  match job with
  | none => return none
  | some job =>
    alterJob job.number fun j => { j with
      processes := j.processes.map fun (n, old) => (n, if n = process then some ending else old) }
    return some job.number

/-- Whether all processes of a job have ended. -/
def isOver (job : Job) : Bool := job.processes.all (·.2.isSome)

/-- The status that stands for an ending. -/
def statusOf : Ending → Nat
  | .exited status => status
  | .signaled signal => 128 + signal

/-- The status of a job: that of its last process. -/
def jobStatus (job : Job) : Nat := ((job.processes.getLast?.bind (·.2)).map statusOf).getD 0

/-- Tells of a process that a signal has ended, unless that is what signals are for. -/
def report : Ending → Sh Unit
  | .exited _ => return ()
  | .signaled signal => do
    if signal ≠ Signal.interrupt ∧ signal ≠ Signal.pipe then
      say 2 ((Signal.description signal).toList ++ ['\n'])

/-- Waits for the next process that ends. The result tells its job; none if there is no process, or if
none has ended and `blocking` is not set. -/
def reap (blocking : Bool) (job : Option Nat) : Sh (Option Reaped) := do
  let found ← ask (.wait blocking)
  match found with
  | .child process ending =>
    let its ← note process ending
    if job.isSome && its == job then report ending
    return some found
  | .interrupted => return some found
  | _ => return none

/-- How often something is tried. -/
def tries : Nat := 1000000000

/-- Waits until all processes of a job have ended. -/
def awaitJob (job : Nat) : Nat → Sh Unit
  | 0 => return ()
  | steps + 1 => do
    let s ← get
    match s.jobs.find? (·.number == job) with
    | none => return ()
    | some found =>
      if isOver found then return ()
      match ← reap true (some job) with
      | none => return ()
      | some .interrupted =>
        notice
        awaitJob job steps
      | some _ => awaitJob job steps

/-- Waits for a job and forgets it. The result is its status. -/
def finish (job : Nat) : Sh Nat := do
  awaitJob job tries
  let s ← get
  set { s with jobs := s.jobs.filter (·.number != job) }
  return ((s.jobs.find? (·.number == job)).map jobStatus).getD 0

/-- Ends the process by a signal. -/
def abort {α : Type} (signal : Nat) : Sh α := do
  let (own, _) ← ask .number
  let _ ← ask (.handle signal .usual)
  let _ ← ask (.kill own signal)
  quit (128 + signal)

end Judge.Host.Shell.Sh
