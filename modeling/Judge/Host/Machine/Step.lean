import Judge.Host.Machine.Image
import Judge.Host.Machine.Opening
import Judge.Host.Machine.Signal

/-!
The steps of the processes of a machine. The next request of a process is answered, or it has to wait.
A process goes on until then, or until its turn is over; when all wait, the clock moves on to the moment
at which one of them wakes up.
-/

namespace Judge.Host.Machine

/-- Lets a process go on with what a change of the machine gave. -/
def settle {α : Type} (m : Machine) (index : Nat) (next : Except IoError α → Program) :
    Except IoError (α × Machine) → Machine
  | .ok (value, m) => m.goOn index (next (.ok value))
  | .error cause => m.goOn index (next (.error cause))

/-- Gives a process another descriptor for an open file. -/
def describe (m : Machine) (index : Nat) (p : Process) (file least : Nat) (isPrivate : Bool) :
    Nat × Machine :=
  let number := freeNumber p least
  (number, m.addDescriptor index { number, file, isPrivate })

/-- The process as another program. -/
def become (m : Machine) (index : Nat) (program : Program) : Machine :=
  m.modifyProcess index fun p =>
    { p with
      program
      descriptors := p.descriptors.filter (!·.isPrivate)
      dispositions := p.dispositions.filter fun d => d.2 == .ignored
      caught := [] }

/-- A copy of a process that goes on in its own way. -/
def copy (m : Machine) (index : Nat) (p : Process) (program : Program) : Machine :=
  { m with
    processes := m.processes.push
      { p with parent := some index, program, caught := [], wake := none }
    present := m.present ++ [m.processes.size] }

/-- Starts a program in the place of a process. -/
def execute (m : Machine) (index : Nat) (p : Process) (path : Raw) (arguments : List Raw)
    (settings : Settings) (next : IoError → Program) : Machine :=
  match imageAt m.tree p.directory imageLimit path arguments with
  | .error cause => m.goOn index (next cause)
  | .ok image =>
    match m.programs image.name with
    | none => m.goOn index (next .badFormat)
    | some program => m.become index (program image.arguments settings)

/-- What a fault of a write does: without a reader the process gets a signal first. -/
def failWrite (m : Machine) (index : Nat) (p : Process) (cause : IoError)
    (next : Except IoError Unit → Program) : Machine :=
  if cause = .brokenPipe && dispositionOf p Signal.pipe == .usual then
    m.endProcess index (.signaled Signal.pipe)
  else
    (if cause = .brokenPipe then m.tellSignal index Signal.pipe else m).goOn index
      (next (.error cause))

/-- The limit on a resource. -/
def limitOf (p : Process) (resource : Resource) : Limit :=
  match p.limits.lookup resource with
  | some limit => limit
  | none =>
    match resource with
    | .stack => { soft := some 8388608 }
    | .core => { soft := some 0 }
    | .openFiles => { soft := some 1024, hard := some 1048576 }
    | .locked => { soft := some 8388608, hard := some 8388608 }
    | .priority => { soft := some 0, hard := some 0 }
    | _ => {}

/-- Whether a limit is above another one. -/
def exceeds : Option Nat → Option Nat → Bool
  | _, none => false
  | none, some _ => true
  | some a, some b => b < a

/-- Answers a request of a process, none if it has to wait. -/
def answer (m : Machine) (index : Nat) (p : Process) :
    (request : Request) → (request.Answer → Program) → Option Machine
  | .work, next =>
    let m := m.modifyProcess index fun p => { p with caught := [] }
    some (m.goOn index (next p.caught))
  | .read number limit, next =>
    match m.openFile? p number with
    | none => some (m.goOn index (next (.error .badDescriptor)))
    | some (file, content) =>
      match m.readFile file content limit with
      | .bytes bytes m => some (m.goOn index (next (.ok bytes)))
      | .fault cause => some (m.goOn index (next (.error cause)))
      | .notYet => if p.caught.isEmpty then none else some (m.goOn index (next (.error .interrupted)))
  | .write number bytes, next =>
    match m.openFile? p number with
    | none => some (m.goOn index (next (.error .badDescriptor)))
    | some (file, content) =>
      match m.writeFile file content bytes with
      | .done m => some (m.goOn index (next (.ok ())))
      | .fault cause => some (m.failWrite index p cause next)
      | .part rest m' =>
        if rest.length = bytes.length then none
        else some (m'.goOn index (.call (.write number rest) next))
  | .openFile path mode, next =>
    some <| m.settle index next do
      let (file, m) ← m.openPath p path mode
      return m.describe index p file 0 false
  | .close number, next =>
    match m.openFile? p number with
    | none => some (m.goOn index (next (.error .badDescriptor)))
    | some _ =>
      let m := m.modifyProcess index fun p =>
        { p with descriptors := p.descriptors.filter (·.number != number) }
      some (m.goOn index (next (.ok ())))
  | .duplicate number least isPrivate, next =>
    some <| m.settle index next do
      match m.openFile? p number with
      | none => throw .badDescriptor
      | some (file, _) => return m.describe index p file least isPrivate
  | .duplicateTo number target, next =>
    some <| m.settle index next do
      match m.openFile? p number with
      | none => throw .badDescriptor
      | some (file, _) => return ((), m.addDescriptor index { number := target, file })
  | .pipe, next =>
    let pipe := m.pipes.size
    let file := m.files.size
    let m := { m with
      pipes := m.pipes.push {}
      files := (m.files.push (.pipeReader pipe)).push (.pipeWriter pipe) }
    let reader := freeNumber p 0
    let writer := freeNumber p (reader + 1)
    let m := (m.addDescriptor index { number := reader, file }).addDescriptor index
      { number := writer, file := file + 1 }
    some (m.goOn index (next (reader, writer)))
  | .fork, next =>
    let child := m.processes.size
    some ((m.copy index p (next 0)).goOn index (next (numberOf child)))
  | .execute path arguments settings, next =>
    some (m.execute index p path arguments settings next)
  | .wait blocking, next =>
    match m.reap index with
    | (.notYet, _) =>
      if !p.caught.isEmpty then some (m.goOn index (next .interrupted))
      else if blocking then none
      else some (m.goOn index (next .notYet))
    | (found, m) => some (m.goOn index (next found))
  | .kill target signal, next =>
    match m.sendTo target signal with
    | .error cause => some (m.goOn index (next (.error cause)))
    | .ok m =>
      if m.processes[index]?.any (·.ending.isNone) then some (m.goOn index (next (.ok ())))
      else some m
  | .handle signal disposition, next =>
    let old := dispositionOf p signal
    let m := m.modifyProcess index fun p =>
      { p with dispositions := (signal, disposition) :: p.dispositions.filter (·.1 != signal) }
    some (m.goOn index (next old))
  | .sleep nanoseconds, next =>
    let wake := p.wake.getD (m.clock + nanoseconds)
    if wake ≤ m.clock || !p.caught.isEmpty then
      some ((m.modifyProcess index fun p => { p with wake := none }).goOn index (next ()))
    else if p.wake.isSome then none
    else some (m.modifyProcess index fun p => { p with wake := some wake })
  | .look path follow, next => some (m.goOn index (next (m.status p path follow)))
  | .lookAt number, next =>
    some <| m.settle index next do
      match m.openFile? p number with
      | none => throw .badDescriptor
      | some (_, file) => return (m.statusOfOpen file, m)
  | .names path, next =>
    some <| m.settle index next do
      let place ← m.resolve p true path
      m.tree.checkDirectory place
      return ((m.tree.names place).map Raw.ofString, m)
  | .change action, next =>
    some <| m.settle index next do return ((), ← m.act p action)
  | .readLink path, next =>
    some <| m.settle index next do
      match ← m.tree.stat (← m.resolve p false path) with
      | .link target => return (Raw.ofString target, m)
      | _ => throw .invalid
  | .enter path, next =>
    some <| m.settle index next do
      let place ← m.resolve p true path
      m.tree.checkDirectory place
      return ((), m.modifyProcess index fun p => { p with directory := place })
  | .directory, next =>
    some <| m.settle index next do
      m.tree.checkDirectory p.directory
      return (Raw.ofString (showLocation p.directory), m)
  | .setMask mask, next =>
    some ((m.modifyProcess index fun p => { p with mask }).goOn index (next p.mask))
  | .limit resource, next => some (m.goOn index (next (limitOf p resource)))
  | .setLimit resource limit, next =>
    some <| m.settle index next do
      if exceeds limit.soft limit.hard then throw .invalid
      if exceeds limit.hard (limitOf p resource).hard then throw .notPermitted
      return ((), m.modifyProcess index fun p =>
        { p with limits := (resource, limit) :: p.limits.filter (·.1 != resource) })
  | .number, next =>
    some (m.goOn index (next (numberOf index, (p.parent.map numberOf).getD 1)))
  | .clock, next => some (m.goOn index (next m.clock))

/-- How many nanoseconds a request takes. -/
def costOf : Request → Nat
  | .work => 2000
  | .fork => 100000
  | .execute _ _ _ => 300000
  | _ => 1000

/-- Lets a process take its next step, none if it has to wait or has ended. -/
def step (m : Machine) (index : Nat) : Option Machine := do
  let p ← m.processes[index]?
  if p.ending.isSome || p.stopped then none
  else match p.program with
    | .done status => some (m.endProcess index (.exited (status % 256)))
    | .call request next =>
      let m := { m with clock := m.clock + costOf request }
      m.answer index p request next

/-! ### Turns -/

/-- How many steps a turn has. -/
def turnLength : Nat := 500

/-- When the next sleeping process wakes up. -/
def nextWake (m : Machine) : Option Nat :=
  (m.present.filterMap fun index => m.processes[index]?.bind fun p =>
    if p.ending.isSome || p.stopped then none else p.wake).min?

/-- The process whose turn comes after that of another one. -/
def following (m : Machine) (index : Nat) : Nat :=
  ((m.present.find? (index < ·)).orElse fun _ => m.present.head?).getD 0

/-- How the first process ended. -/
def ending? (m : Machine) : Option Ending := m.processes[0]?.bind (·.ending)

/-- How long it takes until the end of the first process is noticed. -/
def noticeTime : Nat := 200000

/-- Whether the clock has reached a deadline. -/
def isLate (m : Machine) (deadline : Option Nat) : Bool := deadline.any (· ≤ m.clock)

/-- Runs until the first process has ended, or a deadline is reached, or all processes wait for ever,
or so many steps are done. The process that it is the turn of has some steps left; so many before it
had to wait. What is left of the others goes on while the end of the first is noticed. -/
def runSteps (deadline : Option Nat) : Nat → Nat → Nat → Nat → Machine → Machine
  | 0, _, _, _, m => m
  | steps + 1, current, left, waiting, m =>
    if m.isLate deadline then m
    else
      let hadEnded := m.ending?.isSome
      match m.step current with
      | some m =>
        let deadline := if m.ending?.isSome && !hadEnded then
            some (Nat.min (m.clock + noticeTime) (deadline.getD (m.clock + noticeTime)))
          else deadline
        if left = 0 then runSteps deadline steps (m.following current) turnLength 0 m
        else runSteps deadline steps current (left - 1) 0 m
      | none =>
        if waiting < m.present.length then
          runSteps deadline steps (m.following current) turnLength (waiting + 1) m
        else
          match m.nextWake with
          | none => m
          | some wake =>
            runSteps deadline steps (m.following current) turnLength 0 { m with clock := wake }

/-- How many steps a run may have. -/
def stepLimit : Nat := 4000000

/-- Runs until the first process has ended, none if it does not in time. -/
def run (m : Machine) (deadline : Option Nat) : Option Ending × Machine :=
  let m := m.runSteps deadline stepLimit 0 turnLength 0
  (m.ending?, m)

/-- The machine with a first process in a directory that becomes the program at a path. Its
descriptors stand for the given open files, from 0 on. -/
def start (m : Machine) (directory : Location) (streams : List Nat)
    (limits : List (Resource × Limit)) (path : Raw) (arguments : List Raw) (settings : Settings) :
    Machine :=
  { m with
    present := [0]
    processes :=
      #[{ program := .call (.execute path arguments settings) fun _ => .done 127
          descriptors := streams.mapIdx fun number file => { number, file }
          directory
          limits }] }

/-- What was written to an open file that keeps it. -/
def collected (m : Machine) (file : Nat) : Bytes :=
  match m.files[file]? with
  | some (.collector written) => written.toList
  | _ => []

end Judge.Host.Machine
