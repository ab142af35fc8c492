import Judge.Sandbox.Isolate
import Judge.Sandbox.Plain
import Judge.Table
import Judge.Task.Runner

/-!
A pool of boxes: as many permits and numbers as there may be boxes at once. A call for a task takes a
permit and a number, works in a box built for it, and gives both back at its end, however it ends. The
calls come on in steps of their own, so any number of them may be in progress. The backend that is
configured decides which kind of box is built; the choice that is left open goes to the `isolate` tool
if it is installed.
-/

namespace Judge.Sandbox

/-! ### A box of either kind -/

/-- A box. -/
inductive Box where
  | isolate (box : IsolateBox)
  | plain (box : PlainBox)
  deriving DecidableEq, Repr

namespace Box

/-- The number of a box. -/
def id : Box → Nat
  | .isolate box => box.id
  | .plain box => box.id

/-- Whether boxes of the tool are built. -/
def usesTool (settings : Settings) (host : Host) : Bool :=
  match settings.backend with
  | .isolate => true
  | .plain => false
  | .auto =>
    if settings.isolatePath.contains '/' then host.isProgram settings.isolatePath
    else (host.findProgram settings.isolatePath).isSome

/-- Builds a box. -/
def build (settings : Settings) (id : Nat) : World.Action Box := do
  if usesTool settings (← get).host then
    return .isolate (← IsolateBox.build id settings.workRoot)
  else return .plain (← World.onHost (PlainBox.build id settings.workRoot))

/-- Answers a call; `cancelled` stops a run right after its start. -/
def perform (cancelled : Bool) (box : Box) (call : Call) : StateM World (call.Answer × Box) :=
  match box with
  | .isolate box => do
    let (answer, box) ← box.perform cancelled call
    return (answer, .isolate box)
  | .plain box => do
    let answer ← (World.onHost (box.perform cancelled call)).run
    return (answer, .plain box)

/-- Hands a box back. -/
def release : Box → StateM World (Except Error Unit × Box)
  | .isolate box => do
    let (answer, box) ← box.release
    return (answer, .isolate box)
  | .plain box => do
    let answer ← (World.onHost box.release).run
    return (answer, .plain { box with released := true })

/-- What happens to a box that nobody needs any more. -/
def drop (box : Box) : StateM World Unit := do
  let _ ← box.release
  return ()

end Box

/-! ### The pool -/

/-- How far a call has come. -/
inductive Pool.Stage where
  /-- It waits for a permit. -/
  | waiting
  | permitted
  /-- It has a permit, but found no number. -/
  | refused
  | building (id : Nat)
  | working (id : Nat)
  | releasing (id : Nat)
  /-- It is done with its box, and has not given the number back yet. -/
  | returning (id : Nat)
  /-- It has nothing left but its permit. -/
  | leaving
  deriving DecidableEq, Repr

/-- The steps of a call. -/
inductive Pool.Move where
  | acquire
  | takeNumber
  | built
  | unbuilt
  | finish
  | release
  | giveNumber
  | givePermit
  /-- The call is cancelled while it waits, or dropped. -/
  | abandon
  deriving DecidableEq, Repr

/-- A pool. -/
structure Pool where
  settings : Settings
  /-- How many more tasks may start. -/
  permits : Nat
  /-- The numbers that no task has, the next one first. -/
  free : List Nat
  /-- The calls in progress. -/
  calls : Table Pool.Stage := .empty
  /-- The next call. -/
  next : Int := 0
  deriving DecidableEq

namespace Pool

/-- A pool of a number of boxes, at least one. -/
def ofSize (settings : Settings) (boxes : Nat) : Pool where
  settings
  permits := max boxes 1
  free := List.range (max boxes 1)

/-- Takes a permit, if there is one. -/
def takePermit? (pool : Pool) : Option Pool :=
  if pool.permits = 0 then none else some { pool with permits := pool.permits - 1 }

/-- Gives a permit back. -/
def givePermit (pool : Pool) : Pool := { pool with permits := pool.permits + 1 }

/-- Takes the next number, if there is one. -/
def takeNumber? (pool : Pool) : Option (Nat × Pool) :=
  match pool.free with
  | [] => none
  | id :: free => some (id, { pool with free })

/-- Gives a number back. -/
def giveNumber (pool : Pool) (id : Nat) : Pool := { pool with free := id :: pool.free }

/-- Starts a call. -/
def start (pool : Pool) : Int × Pool :=
  (pool.next, { pool with calls := pool.calls.insert pool.next .waiting, next := pool.next + 1 })

/-- Brings a call to a stage. -/
def advance (pool : Pool) (call : Int) (stage : Stage) : Pool :=
  { pool with calls := pool.calls.insert call stage }

/-- Ends a call. -/
def finish (pool : Pool) (call : Int) : Pool := { pool with calls := pool.calls.erase call }

/-- A step of a call, which is taken only at the stage that it belongs to. -/
def move (pool : Pool) (call : Int) (move : Move) : Pool :=
  match pool.calls.get? call, move with
  | some .waiting, .acquire =>
    match pool.takePermit? with
    | none => pool
    | some pool => pool.advance call .permitted
  | some .waiting, .abandon => pool.finish call
  | some .permitted, .takeNumber =>
    match pool.takeNumber? with
    | none => pool.advance call .refused
    | some (id, pool) => pool.advance call (.building id)
  | some .permitted, .abandon => pool.advance call .leaving
  | some .refused, .givePermit => pool.givePermit.finish call
  | some (.building id), .built => pool.advance call (.working id)
  | some (.building id), .unbuilt => pool.advance call (.returning id)
  | some (.building id), .abandon => pool.advance call (.returning id)
  | some (.working id), .finish => pool.advance call (.releasing id)
  | some (.working id), .abandon => pool.advance call (.returning id)
  | some (.releasing id), .release => pool.advance call (.returning id)
  | some (.releasing id), .abandon => pool.advance call (.returning id)
  | some (.returning id), .giveNumber => (pool.giveNumber id).advance call .leaving
  | some .leaving, .givePermit => pool.givePermit.finish call
  | _, _ => pool

end Pool

/-- A pool with what its boxes work on. -/
structure Site where
  pool : Pool
  world : World

namespace Site

/-- Does something with what the boxes work on. -/
def onWorld {α : Type} (action : StateM World α) : StateM Site α := do
  let s ← get
  let (result, world) := action.run s.world
  set { s with world }
  return result

/-- Changes the pool. -/
def onPool (change : Pool → Pool) : StateM Site Unit :=
  modify fun s => { s with pool := change s.pool }

/-- Runs the task of a call in a box with the number of the call. -/
def runIn {α : Type} (call : Int) (id : Nat) (task : Box → StateM Site (Except Error α × Box)) :
    StateM Site (Except Error α) := do
  match ← onWorld (Box.build (← get).pool.settings id).run with
  | .error cause =>
    onPool (·.move call .unbuilt)
    return .error cause
  | .ok box =>
    onPool (·.move call .built)
    let (result, box) ← task box
    onPool (·.move call .finish)
    let (_, box) ← onWorld box.release
    onPool (·.move call .release)
    onWorld box.drop
    return result

/-- Runs a task as soon as there is a permit. Without one the task waits for another to end, or to
be cancelled; with nothing else to end it, cancelling is all that is left. -/
def runTask {α : Type} (task : Box → StateM Site (Except Error α × Box)) :
    StateM Site (Except Error α) := do
  let call := (← get).pool.next
  onPool (·.start.2)
  onPool (·.move call .acquire)
  match (← get).pool.calls.get? call with
  | some .permitted =>
    onPool (·.move call .takeNumber)
    match (← get).pool.calls.get? call with
    | some (.building id) =>
      let result ← runIn call id task
      onPool (·.move call .giveNumber)
      onPool (·.move call .givePermit)
      return result
    | _ =>
      onPool (·.move call .givePermit)
      return .error .noFreeBox
  | _ =>
    onPool (·.move call .abandon)
    return .error .cancelledWaiting

/-- How the requests of a task are answered in a box. -/
def runner : Task.Runner (Site × Box) where
  host s := s.1.world.host
  setHost host s := ({ s.1 with world := { s.1.world with host } }, s.2)
  box call s :=
    let ((answer, box), world) := (s.2.perform false call).run s.1.world
    (answer, ({ s.1 with world }, box))

/-- Runs a program as a task. -/
def runProgram {α : Type} (program : Task.Program α) : StateM Site (Except Error α) :=
  runTask fun box => fun site =>
    let (result, site, box) := program.run runner.handle (site, box)
    ((.ok result, box), site)

end Site

end Judge.Sandbox
