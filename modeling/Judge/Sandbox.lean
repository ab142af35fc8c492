import Judge.Decimal.Binary64
import Judge.Language
import Judge.Stream
import Judge.Sandbox.Error

/-!
Sandboxes: boxes in which commands run under limits, and the calls that they answer while they belong
to a task. Paths inside a box start at `/box`.
-/

namespace Judge.Sandbox

open Decimal (Binary64)

/-- Where an output stream of a command goes. -/
inductive Redirect where
  | discard
  /-- Collected and handed back. -/
  | capture
  /-- Written to a file inside the box. -/
  | file (path : String)
  deriving DecidableEq, Repr

/-- Streams and limits of a command. -/
structure RunConfig where
  /-- The file inside the box that is read as input. -/
  input : Option String := none
  output : Redirect := .discard
  errors : Redirect := .discard
  /-- Sends the errors where the output goes; `errors` is then left aside. -/
  mergeErrors : Bool := false
  /-- In kilobytes, 0 for none. -/
  memoryLimit : Nat := 0
  /-- In seconds of the processor, 0 for none. -/
  timeLimit : Binary64 := .zero
  /-- In seconds of the clock, 0 for none. -/
  wallTimeLimit : Binary64 := .zero
  /-- How many processes there may be at once, 0 for no limit. -/
  maxProcesses : Nat := 1
  env : Environment := []
  mounts : List Language.Mount := []
  deriving DecidableEq, Repr

/-- How a command ended and what it used. -/
structure RunStats where
  exitCode : Int := 0
  signal : Option Int := none
  /-- Stopped by the sandbox at a time limit. -/
  killed : Bool := false
  /-- Stopped by the sandbox at the memory limit. -/
  memoryExceeded : Bool := false
  /-- In seconds of the processor. -/
  time : Binary64 := .zero
  /-- In seconds of the clock. -/
  wallTime : Binary64 := .zero
  /-- The most memory used at once, in kilobytes. -/
  memory : Nat := 0
  message : String := ""
  output : Bytes := []
  errors : Bytes := []
  deriving DecidableEq, Repr

/-- Whether a command ended by itself and without complaint. -/
def RunStats.success (stats : RunStats) : Bool :=
  stats.exitCode == 0 && stats.signal.isNone && !stats.killed && !stats.memoryExceeded

/-- What runs the commands. -/
inductive Backend where
  /-- The `isolate` tool if it is installed, else plain processes. -/
  | auto
  | isolate
  /-- Plain processes. -/
  | plain
  deriving DecidableEq, Repr

/-- What every box of a pool has in common. -/
structure Settings where
  backend : Backend := .auto
  /-- The `isolate` tool. -/
  isolatePath : String
  /-- The host directory of plain boxes and of accounts of runs. -/
  workRoot : String
  deriving DecidableEq, Repr

/-! ### Calls -/

/-- A call to a sandbox. -/
inductive Call where
  /-- Writes a file inside the box. -/
  | deliver (path : String) (data : Bytes) (executable : Bool)
  /-- Copies a file of the host into the box. -/
  | copyIn (source path : String)
  | fetch (path : String)
  /-- Runs a command and waits for its end. -/
  | run (command : List String) (config : RunConfig)
  deriving DecidableEq, Repr

/-- What a successful call gives. -/
abbrev Call.Value : Call → Type
  | .fetch _ => Bytes
  | .run _ _ => RunStats
  | _ => Unit

/-- What a call answers. -/
abbrev Call.Answer (call : Call) : Type := Except Error call.Value

/-- A kind of sandbox: how it answers calls, given its state. -/
abbrev Handler (σ : Type) := (call : Call) → σ → call.Answer × σ

end Judge.Sandbox
