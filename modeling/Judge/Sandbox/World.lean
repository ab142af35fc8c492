import Judge.Host
import Judge.Sandbox.Error

/-!
What sandboxes work on: a host, the `isolate` tool, and the time. The tool can be any program; every
use of it is kept in a log.
-/

namespace Judge.Sandbox

/-- How a use of the tool ends. -/
inductive ToolResult where
  | notStarted (cause : IoError)
  /-- A status, none if a signal ended it. -/
  | ended (status : Option Int) (output errors : Bytes)
  deriving DecidableEq, Repr

/-- What the tool does when it is started with arguments. -/
abbrev Tool := List String → Host → ToolResult × Host

/-- A use of the tool, be it only tried. -/
structure ToolUse where
  arguments : List String
  /-- Whether it did not come to its end: the tool could not be started, or it was stopped. -/
  stopped : Bool := false
  deriving DecidableEq, Repr

/-- What sandboxes work on. -/
structure World where
  host : Host
  tool : Tool
  /-- What the tool has done with arguments by the time that it is stopped. -/
  halfway : List String → Host → Host := fun _ host => host
  /-- The time as it goes into names of files. -/
  time : String := ""
  /-- The uses of the tool, the last one first. -/
  log : List ToolUse := []

namespace World

/-- An action, which may fail; what it did before failing stays. -/
abbrev Action (α : Type) := ExceptT Error (StateM World) α

/-- Does something with the host. -/
def onHost {α : Type} (action : Host.Action Error α) : Action α := ExceptT.mk do
  let w ← get
  let (result, host) := action.run w.host
  set { w with host }
  return result

/-- What the tool does with arguments. Those with a NUL cannot be handed to it. -/
def toolResult (w : World) (arguments : List String) : ToolResult × Host :=
  if arguments.any (·.contains '\x00') then (.notStarted .nulInData, w.host)
  else w.tool arguments w.host

/-- Uses the tool. -/
def use (stage : Stage) (arguments : List String) : Action (Option Int × Bytes × Bytes) := do
  let w ← get
  match w.toolResult arguments with
  | (.notStarted cause, host) =>
    set { w with host, log := ⟨arguments, true⟩ :: w.log }
    throw (.noTool stage cause)
  | (.ended status output errors, host) =>
    set { w with host, log := ⟨arguments, false⟩ :: w.log }
    return (status, output, errors)

/-- Starts the tool and stops it before its end. -/
def useStopped (stage : Stage) (arguments : List String) : Action Unit := do
  let w ← get
  match w.toolResult arguments with
  | (.notStarted cause, host) =>
    set { w with host, log := ⟨arguments, true⟩ :: w.log }
    throw (.noTool stage cause)
  | (.ended .., _) =>
    set { w with host := w.halfway arguments w.host, log := ⟨arguments, true⟩ :: w.log }

end World
end Judge.Sandbox
