import Judge.Language.Registry
import Judge.Sandbox
import Judge.Script

/-!
Tasks: programs that use one sandbox, look for programs on the host, and store what they produce on
the host. A task that fails says so in its outcome.
-/

namespace Judge.Task

/-- What a task asks for. -/
inductive Request where
  | box (call : Sandbox.Call)
  /-- Looks for a program in the directories of programs. -/
  | findProgram (name : String)
  /-- Stores a file on the host, making the directories above it. -/
  | store (path : String) (data : Bytes) (executable : Bool)
  deriving DecidableEq, Repr

/-- What a request answers. -/
abbrev Request.Answer : Request → Type
  | .box call => call.Answer
  | .findProgram _ => Option String
  | .store _ _ _ => Except IoError Unit

/-- Why a command cannot be run. -/
inductive CommandError where
  | empty
  | notFound (program : String)
  deriving DecidableEq, Repr

/-- The wording of each cause. -/
def CommandError.message : CommandError → String
  | .empty => "Empty command"
  | .notFound program => s!"Could not find executable {program}: cannot find binary path"

/-- Why a task fails. -/
inductive Failure where
  | unknownLanguage (name : String)
  | badTimeLimit (limit : Decimal.Binary64)
  | noCompileCommand (cause : Language.CommandError)
  | command (cause : CommandError)
  | sandbox (cause : Sandbox.Error)
  | storing (path : String) (cause : IoError)
  deriving DecidableEq, Repr

/-- A program of requests. -/
abbrev Program (α : Type) := Script Request Request.Answer α

/-- A program of requests that stops at the first failure. -/
abbrev Steps (α : Type) := ExceptT Failure (Script Request Request.Answer) α

/-- Makes a request. -/
def ask (request : Request) : Steps request.Answer :=
  ExceptT.mk do return .ok (← Script.ask request)

/-- Fails with a cause made from that of an answer. -/
def orFail {ε α : Type} (failure : ε → Failure) : Except ε α → Steps α
  | .ok value => pure value
  | .error cause => throw (failure cause)

/-- Makes a call to the sandbox. -/
def call (c : Sandbox.Call) : Steps c.Value := do
  orFail .sandbox (← ask (.box c))

/-- Writes a file that is not executable into the box. -/
def write (path : String) (data : Bytes) : Steps Unit := call (.deliver path data false)

/-- Stores a file on the host. -/
def store (path : String) (data : Bytes) (executable : Bool) : Steps Unit := do
  orFail (.storing path) (← ask (.store path data executable))

/-- A command with the full path of its program. A program given by a path is left as it is. -/
def resolve (command : List String) : Program (Except CommandError (List String)) :=
  match command with
  | [] => return .error .empty
  | program :: arguments =>
    if program.contains '/' then return .ok command
    else do
      match ← (Script.ask (Request.findProgram program) : Program (Option String)) with
      | some found => return .ok (found :: arguments)
      | none => return .error (.notFound program)

/-- A command with the full path of its program, or failure. -/
def resolved (command : List String) : Steps (List String) := do
  orFail .command (← ExceptT.mk do return .ok (← resolve command))

/-- The language of a name, which must be enabled. -/
def enabledLanguage (registry : Language.Registry) (name : String) : Steps Language :=
  match registry.get? name with
  | some language => pure language
  | none => throw (.unknownLanguage name)

end Judge.Task
