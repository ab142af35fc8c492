import Judge.Decimal.Integer
import Judge.Decimal.Real
import Judge.Sandbox
import Judge.Sandbox.BoxFiles
import Judge.Sandbox.Error
import Judge.Sandbox.World
import Judge.Text.Blank
import Judge.Text.Lines

/-!
Boxes of the `isolate` tool. A box is made when it is built and cleaned up exactly once: when it is
handed back, when a run is cancelled, or else when it is dropped. The tool writes an account of each
run: lines of a key, a colon and a value, in any order. Lines without a colon and unknown keys do not
count.
-/

namespace Judge.Sandbox

/-! ### Accounts of runs -/

/-- What an account says so far. -/
structure RunAccount where
  stats : RunStats := {}
  /-- The memory of the whole control group, in kilobytes. -/
  groupMemory : Option Nat := none
  /-- The memory of the largest process, in kilobytes. -/
  processMemory : Option Nat := none
  deriving DecidableEq, Repr

namespace RunAccount

/-- A number of kilobytes. -/
def readMemory (value : List Char) : Option Nat :=
  (Decimal.readInteger? Decimal.nat64 value).map Int.toNat

/-- A number of seconds, zero if it is none. -/
def readSeconds (value : List Char) : Decimal.Binary64 := (Decimal.readReal? value).getD .zero

/-- Takes one line into the account. -/
def readLine (account : RunAccount) (line : List Char) : Except Error RunAccount :=
  match Text.cut ':' line with
  | none => .ok account
  | some (key, value) =>
    let stats := account.stats
    match String.ofList key with
    | "killed" => .ok { account with stats := { stats with killed := true } }
    | "cg-oom-killed" => .ok { account with stats := { stats with memoryExceeded := true } }
    | "exitcode" =>
      let exitCode := (Decimal.readInteger? Decimal.int32 value).getD (-1)
      .ok { account with stats := { stats with exitCode } }
    | "exitsig" =>
      let signal := Decimal.readInteger? Decimal.int32 value
      .ok { account with stats := { stats with signal } }
    | "cg-mem" => .ok { account with groupMemory := readMemory value }
    | "max-rss" => .ok { account with processMemory := readMemory value }
    | "message" => .ok { account with stats := { stats with message := String.ofList value } }
    | "status" =>
      match String.ofList value with
      | "TO" => .ok { account with stats := { stats with killed := true } }
      | "XX" => .error (.toolFault stats.message)
      | _ => .ok account
    | "time" => .ok { account with stats := { stats with time := readSeconds value } }
    | "time-wall" => .ok { account with stats := { stats with wallTime := readSeconds value } }
    | _ => .ok account

/-- Takes lines into the account in order. -/
def readLines (account : RunAccount) : List (List Char) → Except Error RunAccount
  | [] => .ok account
  | line :: rest => do readLines (← account.readLine line) rest

/-- The statistics of an account; the memory of the control group comes before that of a process. -/
def total (account : RunAccount) : RunStats :=
  { account.stats with memory := (account.groupMemory.or account.processMemory).getD 0 }

/-- Reads an account. A fault of the tool is an error. -/
def read (text : List Char) : Except Error RunStats :=
  (readLines {} (Text.lines text)).map total

end RunAccount

/-! ### Boxes -/

open Decimal (Binary64)

/-- A box of the tool. -/
structure IsolateBox where
  id : Nat
  /-- The path of the box directory on the host. -/
  path : String
  /-- Where accounts of runs go, outside the box. -/
  accounts : String
  released : Bool := false
  deriving DecidableEq, Repr

namespace IsolateBox

/-- The variables that every command has. -/
def standardPath : String := "PATH=/usr/local/sbin:/usr/local/bin:/usr/sbin:/usr/bin:/sbin:/bin"

/-- The file in the box that collects the output. -/
def outputFile : String := ".grader_stdout"

/-- The file in the box that collects the errors. -/
def errorsFile : String := ".grader_stderr"

/-- The arguments that every use for a box starts with. -/
def boxArguments (id : Nat) : List String := ["-b", toString id, "--cg"]

/-- The arguments that make a box. -/
def initArguments (id : Nat) : List String := boxArguments id ++ ["--init"]

/-- The arguments that clean a box up. -/
def cleanupArguments (id : Nat) : List String := boxArguments id ++ ["--cleanup"]

/-- A number of seconds with three places. -/
def seconds (x : Binary64) : String := String.ofList (Decimal.writeFixed 3 x)

/-- The arguments for the limits. -/
def limitArguments (config : RunConfig) : List String :=
  [if config.maxProcesses = 0 then "--processes" else s!"--processes={config.maxProcesses}"] ++
  (if config.memoryLimit = 0 then [] else [s!"--cg-mem={config.memoryLimit}"]) ++
  (if Binary64.zero.lt config.timeLimit then
    ["--time=" ++ seconds config.timeLimit,
      "--extra-time=" ++ seconds (config.timeLimit.min (.ofInt 1))]
  else []) ++
  (if Binary64.zero.lt config.wallTimeLimit then
    ["--wall-time=" ++ seconds config.wallTimeLimit]
  else [])

/-- The arguments for an output stream. -/
def redirectArguments (option captureFile : String) : Redirect → List String
  | .discard => []
  | .capture => [option, captureFile]
  | .file path => [option, relativeToBox path]

/-- The arguments for the streams. -/
def streamArguments (config : RunConfig) : List String :=
  (match config.input with
  | some path => ["-i", relativeToBox path]
  | none => []) ++
  redirectArguments "-o" outputFile config.output ++
  (if config.mergeErrors then ["--stderr-to-stdout"]
  else redirectArguments "-r" errorsFile config.errors)

/-- The arguments that run a command, given the file for the account. -/
def runArguments (id : Nat) (account : String) (command : List String) (config : RunConfig) :
    List String :=
  boxArguments id ++ ["--silent", "-M", account, "--open-files=64", "--fsize=262144"] ++
  limitArguments config ++
  config.mounts.map (·.argument) ++
  (standardPath :: config.env.map fun (name, value) => name ++ "=" ++ value).flatMap (["-E", ·]) ++
  streamArguments config ++
  ["--run", "--"] ++ command

/-- The text of what the tool complains about. -/
def complaint (errors : Bytes) : String := String.ofList (Utf8.decodeLossy errors)

/-- Makes a box. -/
def build (id : Nat) (workRoot : String) : World.Action IsolateBox := do
  let accounts := Path.join (Path.join workRoot "isolate") (toString id)
  World.onHost do
    Host.change (·.makeParents (accounts ++ "/account")) .io
    Host.change (·.setMode accounts 0o700) .io
  let (status, output, errors) ← World.use .init (initArguments id)
  if status ≠ some 0 then throw (.initRefused (complaint errors))
  let root := String.ofList (Text.trim (Utf8.decodeLossy output))
  if root.isEmpty then throw (.initSilent (complaint errors))
  return { id, path := Path.join root "box", accounts }

/-- Does something with a box that was not handed back. -/
def live {α : Type} (box : IsolateBox) (action : World.Action α) : World.Action α := do
  if box.released then throw (.released "IsolateSandbox" box.id)
  action

/-- The directory of the box. -/
def directory (box : IsolateBox) : BoxDirectory := ⟨box.id, box.path⟩

/-- Cleans the box up. -/
def cleanup (box : IsolateBox) : World.Action Unit := do
  let (status, _) ← World.use .cleanup (cleanupArguments box.id)
  if status ≠ some 0 then throw .cleanupRefused

/-- Takes what a command wrote into a file of the box; a missing file counts as empty. -/
def takeCapture (box : IsolateBox) (name : String) : World.Action Bytes := World.onHost do
  let path := Path.join box.path name
  match (← get).fetch path with
  | .ok content =>
    Host.tryChange (·.remove path)
    return content.bytes
  | .error _ => return []

/-- Runs a command to its end. -/
def runToEnd (box : IsolateBox) (account : String) (command : List String)
    (config : RunConfig) : World.Action RunStats := do
  let (status, _, errors) ← World.use .run (runArguments box.id account command config)
  if status ≠ some 0 ∧ status ≠ some 1 then
    throw (.runBroken status (String.ofList (Text.trim (Utf8.decodeLossy errors))))
  let text ← World.onHost do
    match (← get).fetch account with
    | .error _ => throw .noAccount
    | .ok content =>
      match Utf8.decode? content.bytes with
      | none => throw .noAccount
      | some text =>
        Host.tryChange (·.remove account)
        return text
  let stats ← ExceptT.mk do return RunAccount.read text
  let output ← if config.output = .capture then box.takeCapture outputFile else pure []
  let errors ← if !config.mergeErrors && config.errors = .capture then box.takeCapture errorsFile
    else pure []
  return { stats with output, errors }

/-- The file for the account of a run that starts at a time. -/
def accountFile (box : IsolateBox) (time : String) : String :=
  Path.join box.accounts (time ++ ".meta")

/-- Answers a call; `cancelled` stops a run before its end. -/
def perform (cancelled : Bool) (box : IsolateBox) :
    (call : Call) → StateM World (call.Answer × IsolateBox)
  | .deliver path data executable => do
    let answer ← (box.live do World.onHost (box.directory.deliver path data executable)).run
    return (answer, box)
  | .copyIn source path => do
    let answer ← (box.live do World.onHost (box.directory.copyIn source path)).run
    return (answer, box)
  | .fetch path => do
    let answer ← (box.live do World.onHost (box.directory.fetch path)).run
    return (answer, box)
  | .run command config => do
    let account := box.accountFile (← get).time
    if cancelled && !box.released && !command.isEmpty then
      match ← (World.useStopped .run (runArguments box.id account command config)).run with
      | .error cause => return (.error cause, box)
      | .ok () =>
        let _ ← (box.cleanup).run
        let _ ← (World.onHost (Host.tryChange (·.remove account))).run
        return (.error .cancelled, { box with released := true })
    else
      let answer ← (box.live do
        if command.isEmpty then throw .emptyCommand
        World.onHost (Host.tryChange (·.remove account))
        box.runToEnd account command config).run
      return (answer, box)

/-- Hands the box back; a box that was handed back before is left alone. -/
def release (box : IsolateBox) :
    StateM World (Except Error Unit × IsolateBox) := do
  if box.released then return (.ok (), box)
  else return (← box.cleanup, { box with released := true })

/-- What happens to a box that nobody needs any more. -/
def drop (box : IsolateBox) : StateM World Unit := do
  let _ ← box.release
  return ()

end IsolateBox

end Judge.Sandbox
