import Judge.Decimal.Shortest
import Judge.Decimal.Integer
import Judge.Stream

/-!
What goes wrong with sandboxes, and the wording of each cause.
-/

namespace Judge.Sandbox

/-- Which of the calls to the `isolate` tool is meant. -/
inductive Stage where
  | init
  | run
  | cleanup
  deriving DecidableEq, Repr

/-- The option of the tool that asks for a stage. -/
def Stage.option : Stage → String
  | .init => "--init"
  | .run => "--run"
  | .cleanup => "--cleanup"

/-- Why something cannot be done with a sandbox. -/
inductive Error where
  /-- A path that does not start inside the box. -/
  | outside (path : String)
  /-- The box itself where a file is wanted. -/
  | noFile (path : String)
  /-- A path with a part that is no name. -/
  | escapes (path : String)
  /-- A box that was handed back before. -/
  | released (kind : String) (id : Nat)
  | cannotWrite (path : String) (id : Nat)
  | cannotCopy (source : String) (id : Nat)
  | cannotRead (path : String) (id : Nat)
  | emptyCommand
  | badWallTimeLimit (limit : Decimal.Binary64)
  | badTimeLimit (limit : Decimal.Binary64)
  | cannotStart (program : String)
  | cancelled
  /-- The tool cannot be started. -/
  | noTool (stage : Stage) (cause : IoError)
  /-- The tool refuses to make a box. -/
  | initRefused (complaint : String)
  /-- The tool does not say where the box is. -/
  | initSilent (complaint : String)
  | cleanupRefused
  /-- The tool breaks down while it runs a command; without a status, by a signal. -/
  | runBroken (status : Option Int) (complaint : String)
  /-- There is no account of the run. -/
  | noAccount
  /-- The account of the run tells of a fault of the tool. -/
  | toolFault (complaint : String)
  | cancelledWaiting
  /-- More tasks run than there are boxes. -/
  | noFreeBox
  | io (cause : IoError)
  /-- A fault that a task reports itself. -/
  | reported (message : String)
  deriving DecidableEq, Repr

/-- The wording of a status that may be missing. -/
def showStatus : Option Int → String
  | none => "None"
  | some status => s!"Some({status})"

/-- A number as messages show it. -/
def showReal (x : Decimal.Binary64) : String := String.ofList (Decimal.messageLayout.write x)

/-- The wording of each cause. -/
def Error.message : Error → String
  | .outside path => s!"Path {path} is outside the box"
  | .noFile path => s!"Path {path} does not name a file"
  | .escapes path => s!"Path {path} escapes the box"
  | .released kind id => s!"{kind} {id} was already released"
  | .cannotWrite path id => s!"Failed to write {path} in box {id}"
  | .cannotCopy source id => s!"Failed to copy {source} into box {id}"
  | .cannotRead path id => s!"Failed to read {path} from box {id}"
  | .emptyCommand => "Empty command"
  | .badWallTimeLimit limit => "Bad wall time limit " ++ showReal limit
  | .badTimeLimit limit => "Bad time limit " ++ showReal limit
  | .cannotStart program => s!"Failed to spawn {program}"
  | .cancelled => "Sandboxed command cancelled"
  | .noTool stage cause => "Failed to spawn isolate " ++ stage.option ++ ": " ++ cause.message
  | .initRefused complaint => s!"isolate --init exited with non-zero status; stderr={complaint}"
  | .initSilent complaint => s!"isolate --init produced empty stdout; stderr={complaint}"
  | .cleanupRefused => "isolate --cleanup exited with non-zero status"
  | .runBroken status complaint =>
    "isolate --run failed (" ++ showStatus status ++ "): " ++ complaint
  | .noAccount => "Failed to read meta file"
  | .toolFault complaint => s!"isolate internal error: {complaint}"
  | .cancelledWaiting => "Cancelled while waiting for a sandbox"
  | .noFreeBox => "Sandbox pool has a permit but no free box"
  | .io cause => cause.message
  | .reported message => message

end Judge.Sandbox
