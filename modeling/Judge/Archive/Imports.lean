import Judge.Archive.Import
import Judge.Archive.Locks

/-!
Imports under locks. Any number of them share the locks and one store. Each waits for the lock of its
problem, and then makes its store calls one by one, while others make theirs. Dropping an import
withdraws it if it waits. With its lock it goes on though nobody waits for its end, and it gives the
lock back after its last store call.
-/

namespace Judge.Archive

/-- How far an import under a lock has come. -/
inductive ImportStage where
  | waiting
  /-- It has its lock, and this is left of it. -/
  | running (program : Store.Program (Except Error Summary))
  | finished (result : Except Error Summary)
  | withdrawn

/-- An import under the lock of its problem. -/
structure LockedImport where
  problem : Int
  entries : List Entry
  stage : ImportStage := .waiting

/-- The imports under locks, by the tickets of their requests for the locks. -/
structure Imports (σ : Type) where
  store : σ
  locks : Locks := {}
  jobs : Table LockedImport := .empty

namespace Imports

variable {σ : Type}

/-- Brings an import to a stage. -/
def advance (imports : Imports σ) (ticket : Int) (job : LockedImport) (stage : ImportStage) :
    Imports σ :=
  { imports with jobs := imports.jobs.insert ticket { job with stage } }

/-- Lets an import that waits begin if it has its lock. -/
def enter (imports : Imports σ) (ticket : Int) (job : LockedImport) : Imports σ :=
  if imports.locks.holds ticket then
    imports.advance ticket job (.running (importArchive job.entries job.problem).run)
  else imports.advance ticket job .waiting

/-- Starts an import and polls it. -/
def start (imports : Imports σ) (problem : Int) (entries : List Entry) : Imports σ :=
  let (ticket, locks) := imports.locks.request problem
  { imports with locks }.enter ticket { problem, entries }

/-- Polls an import again. -/
def poll (imports : Imports σ) (ticket : Int) : Imports σ :=
  match imports.jobs.get? ticket with
  | some job =>
    match job.stage with
    | .waiting => { imports with locks := imports.locks.poll ticket }.enter ticket job
    | _ => imports
  | none => imports

/-- Lets an import that has its lock go on to its next store call, or to its end. -/
def work (handle : Store.Handler σ) (imports : Imports σ) (ticket : Int) : Imports σ :=
  match imports.jobs.get? ticket with
  | some job =>
    match job.stage with
    | .running (.call call next) =>
      let (answer, store) := handle call imports.store
      { imports with store }.advance ticket job (.running (next answer))
    | .running (.done result) =>
      { imports with locks := imports.locks.drop ticket }.advance ticket job (.finished result)
    | _ => imports
  | none => imports

/-- Drops an import. -/
def abandon (imports : Imports σ) (ticket : Int) : Imports σ :=
  match imports.jobs.get? ticket with
  | some job =>
    match job.stage with
    | .waiting =>
      { imports with locks := imports.locks.drop ticket }.advance ticket job .withdrawn
    | _ => imports
  | none => imports

/-- Lets an import that has its lock run to its end, while nobody else makes calls. -/
def workOff (handle : Store.Handler σ) (ticket : Int) :
    Store.Program (Except Error Summary) → Imports σ → Imports σ
  | .done _, imports => imports.work handle ticket
  | .call call next, imports =>
    workOff handle ticket (next (handle call imports.store).1) (imports.work handle ticket)

end Imports

/-- Imports an archive into a problem under a lock that nobody else asks for. -/
def importLocked {σ : Type} (handle : Store.Handler σ) (entries : List Entry) (problem : Int)
    (store : σ) : ImportStage × σ :=
  let imports := ({ store } : Imports σ).start problem entries
  let imports := imports.workOff handle 0 (importArchive entries problem).run
  (((imports.jobs.get? 0).map (·.stage)).getD .withdrawn, imports.store)

end Judge.Archive
