import Judge.Host.Machine

/-!
The ends of processes, and the signals that bring them about.
-/

namespace Judge.Host

namespace Signal

/-- Signals by number, from 1 on. -/
def names : List String :=
  ["HUP", "INT", "QUIT", "ILL", "TRAP", "ABRT", "BUS", "FPE", "KILL", "USR1", "SEGV", "USR2", "PIPE",
    "ALRM", "TERM", "STKFLT", "CHLD", "CONT", "STOP", "TSTP", "TTIN", "TTOU", "URG", "XCPU", "XFSZ",
    "VTALRM", "PROF", "WINCH", "IO", "PWR", "SYS"]

/-- What messages say of signals, from 1 on. -/
def descriptions : List String :=
  ["Hangup", "Interrupt", "Quit", "Illegal instruction", "Trace/breakpoint trap", "Aborted",
    "Bus error", "Floating point exception", "Killed", "User defined signal 1",
    "Segmentation fault", "User defined signal 2", "Broken pipe", "Alarm clock", "Terminated",
    "Stack fault", "Child exited", "Continued", "Stopped (signal)", "Stopped",
    "Stopped (tty input)", "Stopped (tty output)", "Urgent I/O condition",
    "CPU time limit exceeded", "File size limit exceeded", "Virtual timer expired",
    "Profiling timer expired", "Window changed", "I/O possible", "Power failure",
    "Bad system call"]

/-- What messages say of a signal. -/
def description (signal : Nat) : String :=
  match descriptions[signal - 1]? with
  | some text => text
  | none => "Real-time signal " ++ toString (signal - 34)

/-- The names of all signals by number, as shells know them; one of them has none. -/
def allNames : List String :=
  "EXIT" :: names.set 15 "16" ++ ["32", "33", "RTMIN"] ++
    (List.range 15).map (fun i => "RTMIN+" ++ toString (i + 1)) ++
    (List.range 14).map (fun i => "RTMAX-" ++ toString (14 - i)) ++ ["RTMAX"]

def hangup : Nat := 1
def interrupt : Nat := 2
def quit : Nat := 3
def kill : Nat := 9
def segment : Nat := 11
def pipe : Nat := 13
def terminate : Nat := 15
def child : Nat := 17
def resume : Nat := 18
def stop : Nat := 19

/-- The greatest number of a signal. -/
def last : Nat := 64

/-- Signals that do nothing unless they are caught. -/
def harmless : List Nat := [17, 18, 23, 28]

/-- Signals that stop a process unless they are caught. -/
def stopping : List Nat := [19, 20, 21, 22]

end Signal

namespace Machine

/-- What a process does with a signal. -/
def dispositionOf (p : Process) (signal : Nat) : Disposition :=
  if signal = Signal.kill ∨ signal = Signal.stop then .usual
  else (p.dispositions.lookup signal).getD .usual

/-- Tells a process of a signal that it catches. -/
def tellSignal (m : Machine) (index signal : Nat) : Machine :=
  m.modifyProcess index fun p =>
    if p.ending.isNone && dispositionOf p signal == .caught && !p.caught.contains signal then
      { p with caught := p.caught ++ [signal] }
    else p

/-- Forgets processes that have ended and that nobody waits for. -/
def forgetOrphans (m : Machine) : Machine :=
  { m with present := m.present.filter fun index =>
      m.processes[index]?.any fun p => p.ending.isNone || p.parent.isSome }

/-- Leaves the children of a process without a parent. -/
def leaveChildren (m : Machine) (index : Nat) : Machine :=
  m.present.foldl (fun m child => m.modifyProcess child fun p =>
    if p.parent = some index then { p with parent := none } else p) m

/-- Ends a process. -/
def endProcess (m : Machine) (index : Nat) (ending : Ending) : Machine :=
  match m.processes[index]? with
  | none => m
  | some p =>
    let ended : Process :=
      { p with ending := some ending, descriptors := [], caught := [], program := .done 0 }
    let m := { m with processes := m.processes.setIfInBounds index ended }
    let m := (m.leaveChildren index).forgetOrphans
    match p.parent with
    | some parent => m.tellSignal parent Signal.child
    | none => m

/-- Sends a signal to a process. -/
def send (m : Machine) (index signal : Nat) : Machine :=
  match m.processes[index]? with
  | none => m
  | some p =>
    if p.ending.isSome || signal = 0 then m
    else
      let m := if signal = Signal.resume ∨ signal = Signal.kill then
        m.modifyProcess index fun p => { p with stopped := false } else m
      match dispositionOf p signal with
      | .ignored => m
      | .caught => m.tellSignal index signal
      | .usual =>
        if Signal.harmless.contains signal then m
        else if Signal.stopping.contains signal then
          m.modifyProcess index fun p => { p with stopped := true }
        else m.endProcess index (.signaled signal)

/-- The processes that a number given to `kill` means. All of them are in the group of the first one,
which is meant by 0 and by its number below zero. -/
def targets (m : Machine) (target : Int) : List Nat :=
  if target = 0 ∨ target = -1 ∨ target = -(numberOf 0 : Int) then m.present
  else m.present.filter fun index => (numberOf index : Int) == target

/-- Sends a signal to the processes that a number means. -/
def sendTo (m : Machine) (target : Int) (signal : Nat) : Except IoError Machine :=
  if Signal.last < signal then .error .invalid
  else match m.targets target with
    | [] => .error .noProcess
    | found => .ok (found.foldl (fun m index => m.send index signal) m)

/-- Looks for a child that has ended. -/
def reap (m : Machine) (index : Nat) : Reaped × Machine :=
  let children := m.present.filter fun child =>
    m.processes[child]?.any (·.parent == some index)
  let found := children.findSome? fun child =>
    (m.processes[child]?.bind (·.ending)).map (child, ·)
  match found with
  | some (child, ending) =>
    (.child (numberOf child) ending, { m with present := m.present.filter (· != child) })
  | none => (if children.isEmpty then .noChild else .notYet, m)

end Machine
end Judge.Host
