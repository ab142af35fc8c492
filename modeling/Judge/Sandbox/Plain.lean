import Judge.Host.Machine.Step
import Judge.Host.Standard
import Judge.Sandbox.BoxFiles
import Judge.Sandbox

/-!
Boxes without isolation: a directory of the host in which commands run as plain programs, with
limits on the clock, the processor and the memory, but none on what they can see.
-/

namespace Judge.Sandbox

open Decimal (Binary64)
open Host (Machine OpenFile Ending Resource Limit)

/-- A box without isolation. -/
structure PlainBox where
  id : Nat
  /-- The path of the box directory on the host. -/
  path : String
  released : Bool := false
  deriving DecidableEq, Repr

namespace PlainBox

/-- Where programs are looked for. -/
def standardPath : String := "/usr/local/sbin:/usr/local/bin:/usr/sbin:/usr/bin:/sbin:/bin"

/-- The directory of a box. -/
def pathOf (workRoot : String) (id : Nat) : String :=
  Path.join (Path.join workRoot "local") (toString id)

/-- Removes a directory with all that is in it. -/
def removeDirectory (path : String) (host : Host) : Except IoError Host := do
  let place ← host.resolve path
  if host.tree.isDirectory place then return { host with tree := host.tree.removeTree place }
  else throw .notDirectory

/-- Makes an empty box. -/
def build (id : Nat) (workRoot : String) : Host.Action Error PlainBox := do
  let path := pathOf workRoot id
  if (← get).holds path then Host.change (removeDirectory path) .io
  Host.change (·.makeParents (path ++ "/file")) .io
  return { id, path }

/-- The directory of the box. -/
def directory (box : PlainBox) : BoxDirectory := ⟨box.id, box.path⟩

/-- Does something with a box that was not handed back. -/
def live {α : Type} (box : PlainBox) (action : Host.Action Error α) : Host.Action Error α := do
  if box.released then throw (.released "LocalSandbox" box.id)
  action

/-- An argument as the program sees it: a path inside the box becomes one on the host. -/
def translate (box : PlainBox) (argument : String) : String :=
  match hostPath box.path argument with
  | .ok path => path
  | .error _ => argument

/-- A number of seconds in nanoseconds, if it is in range. -/
def nanoseconds? : Binary64 → Option Nat
  | .finite false steps =>
    let n := Decimal.roundDiv (steps * 1000000000) Binary64.one
    if n < 18446744073709551616 * 1000000000 then some n else none
  | _ => none

/-- The limit on the clock, none for no limit. -/
def wallLimit (config : RunConfig) : Except Error (Option Nat) :=
  if Binary64.zero.lt config.wallTimeLimit then
    match nanoseconds? config.wallTimeLimit with
    | some n => .ok (some n)
    | none => .error (.badWallTimeLimit config.wallTimeLimit)
  else .ok none

/-- The limits that the host keeps for the command. Processor time is counted in whole seconds, and
the last limit comes one second later; none if the number of seconds is out of range. -/
def hostLimits? (config : RunConfig) : Option (List (Resource × Limit)) :=
  let bytes := config.memoryLimit * 1024
  let memory : List (Resource × Limit) :=
    if config.memoryLimit = 0 ∨ 18446744073709551615 ≤ bytes then []
    else [(.memory, { soft := some bytes, hard := some bytes })]
  match config.timeLimit with
  | .finite false steps =>
    let seconds := Binary64.ceil steps
    if steps = 0 then some memory
    else if 18446744073709551615 ≤ seconds then none
    else some ((.processor, { soft := some seconds, hard := some (seconds + 1) }) :: memory)
  | _ => some memory

/-- Whether the command is started with limits of the host. -/
def hasHostLimits (config : RunConfig) : Bool :=
  config.memoryLimit != 0 || Binary64.zero.lt config.timeLimit

/-- Something done to make a machine ready for a command. -/
abbrev Setup (α : Type) := ExceptT Error (StateM Machine) α

/-- Opens something that is no file of the host. -/
def openNew (file : OpenFile) : Setup Nat := do
  let m ← get
  set { m with files := m.files.push file }
  return m.files.size

/-- Opens a file of the box. -/
def openFile (box : PlainBox) (opener : Host.Process) (path : String) (mode : Host.OpenMode) :
    Setup Nat := do
  let place ← ExceptT.mk do return hostPath box.path path
  match (← get).openPath opener (Raw.ofString place) mode with
  | .ok (file, m) =>
    set m
    return file
  | .error cause => throw (.io cause)

/-- Opens an output stream. -/
def openRedirect (box : PlainBox) (opener : Host.Process) : Redirect → Setup Nat
  | .discard => openNew .null
  | .capture => openNew (.collector {})
  | .file path => box.openFile opener path .write

/-- Opens the streams of a command: input, output and errors. Merged errors share a file with the
output, and are else collected on their own. -/
def openStreams (box : PlainBox) (opener : Host.Process) (config : RunConfig) :
    Setup (Nat × Nat × Nat) := do
  let input ← match config.input with
    | some path => box.openFile opener path .read
    | none => openNew .null
  let output ← box.openRedirect opener config.output
  let errors ← match config.mergeErrors, config.output with
    | true, .file _ => pure output
    | true, redirect => box.openRedirect opener redirect
    | false, _ => box.openRedirect opener config.errors
  return (input, output, errors)

/-- How a command ended. -/
inductive Ended where
  | by (ending : Ending)
  | late
  deriving DecidableEq, Repr

/-- The statistics of a run. -/
def report (config : RunConfig) (ended : Ended) (output errors : Bytes) : RunStats :=
  let stats : RunStats := match ended with
    | .by (.exited status) => { exitCode := status }
    | .by (.signaled 24) =>
      { exitCode := -1, signal := some 24, killed := true, message := "Time limit exceeded" }
    | .by (.signaled number) => { exitCode := -1, signal := some number }
    | .late => { exitCode := -1, killed := true, message := "Time limit exceeded (wall clock)" }
  { stats with
    output := if config.output = .capture then
        output ++ if config.mergeErrors then errors else []
      else []
    errors := if !config.mergeErrors && config.errors = .capture then errors else [] }

/-- The settings of a command. -/
def settingsOf (config : RunConfig) : Host.Settings :=
  (Environment.ofList (("PATH", standardPath) :: config.env)).map fun (name, value) =>
    (Raw.ofString name, Raw.ofString value)

/-- Whether a text cannot be given to a program. -/
def unfit (text : Raw) : Bool := text.contains '\x00'

/-- The path and the arguments that a command is started with, none if it cannot be started. Under
limits, and if it was looked for, a file that nothing says how to run is taken for a script. -/
def startOf (m : Machine) (directory : Host.Location) (config : RunConfig) (settings : Host.Settings)
    (words : List Raw) : Option (Raw × List Raw) :=
  let program := words.headD []
  let searchPath := (settings.lookup "PATH".toList).getD []
  match Host.imageAmong m.tree directory words .missing (Host.pathsOf searchPath program) with
  | .ok (path, .ok image) =>
    if (m.programs image.name).isSome then some (path, words) else none
  | .ok (path, .error .badFormat) =>
    if hasHostLimits config || !program.contains '/' then
      let interpreter := "/bin/sh".toList
      some (interpreter, interpreter :: path :: words.drop 1)
    else none
  | _ => none

/-- When a command is started on the clock of its machine: it takes a millisecond to start it. -/
def startTime : Nat := 1000000

/-- Runs a command; a cancelled one is stopped right after its start. -/
def runCommand (box : PlainBox) (cancelled : Bool) (command : List String) (config : RunConfig) :
    Host.Action Error RunStats := do
  let program :: _ := command | throw .emptyCommand
  let deadline ← ExceptT.mk do return wallLimit config
  if !config.timeLimit.isFinite then throw (.badTimeLimit config.timeLimit)
  let host ← get
  let opener : Host.Process := { program := .done 0, directory := host.directory }
  let (streams, m) := (box.openStreams opener config).run
    { programs := Host.programs, tree := host.tree, clock := startTime }
  set { host with tree := m.tree }
  let (input, output, errors) ← ExceptT.mk do return streams
  let failed := Error.cannotStart program
  let words := command.map fun argument => Raw.ofString (box.translate argument)
  let settings := settingsOf config
  if words.any unfit || settings.any (fun s => unfit s.1 || unfit s.2) then throw failed
  let some limits := hostLimits? config | throw failed
  let directory ← match m.tree.resolve true host.directory box.path with
    | .ok place => if m.tree.isDirectory place then pure place else throw failed
    | .error _ => throw failed
  let some (path, arguments) := startOf m directory config settings words | throw failed
  if cancelled then throw .cancelled
  let m := m.start directory [input, output, errors] limits path arguments settings
  let (ending, m) := m.run deadline
  set { host with tree := m.tree }
  let ended := match ending with
    | some ending => Ended.by ending
    | none => Ended.late
  return report config ended (m.collected output) (m.collected errors)

/-- Answers a call. -/
def perform (cancelled : Bool) (box : PlainBox) : (call : Call) → Host.Action Error call.Value
  | .deliver path data executable => box.live do box.directory.deliver path data executable
  | .copyIn source path => box.live do box.directory.copyIn source path
  | .fetch path => box.live do box.directory.fetch path
  | .run command config => box.live do box.runCommand cancelled command config

/-- Hands the box back; a box that was handed back before is left alone. -/
def release (box : PlainBox) : Host.Action Error Unit := do
  if !box.released && (← get).holds box.path then Host.change (removeDirectory box.path) .io

end PlainBox
end Judge.Sandbox
