import Judge.Checker
import Judge.Task

/-!
Running a compiled submission on the input of one test. The program reads and writes files named
after the test, or the standard streams.
-/

namespace Judge.Task

open Decimal (Binary64)

/-- A run of a submission. -/
structure Execute where
  /-- The name of the language. -/
  language : String
  /-- The compiled program on the host. -/
  binaryPath : String
  input : Bytes
  /-- Where the output goes on the host. -/
  outputPath : String
  testName : String
  /-- Whether the standard streams are used. -/
  consoleInput : Bool
  /-- In seconds, 0 for none. -/
  timeLimit : Binary64
  /-- In kilobytes, 0 for none. -/
  memoryLimit : Nat
  deriving DecidableEq, Repr

/-- How a submission fared. -/
inductive Verdict where
  | pending
  /-- It ended well, and its output is stored. -/
  | ok
  | timeLimitExceeded
  | memoryLimitExceeded
  | runtimeError (message : String)
  /-- The judge could not run it. -/
  | failed
  deriving DecidableEq, Repr

/-- What is shown to the author of a submission. -/
def Verdict.message : Verdict → String
  | .pending | .ok => ""
  | .timeLimitExceeded => "Time Limit Exceeded"
  | .memoryLimitExceeded => "Memory Limit Exceeded"
  | .runtimeError message => message
  | .failed => Checker.judgeFailure

/-- A verdict with what was used. -/
structure ExecuteOutcome where
  verdict : Verdict := .pending
  /-- In seconds. -/
  time : Binary64 := .zero
  /-- In kilobytes. -/
  memory : Nat := 0
  deriving DecidableEq, Repr

namespace Execute

/-- The paths of input and output inside the box. -/
def boxPaths (task : Execute) : String × String :=
  if task.consoleInput then ("/box/stdin.in", "/box/stdout.out")
  else (s!"/box/{task.testName}.in", s!"/box/{task.testName}.out")

/-- The limit on the clock: twice the limit on the processor and a second more, none without one. -/
def wallTimeLimit (limit : Binary64) : Except Failure Binary64 :=
  if !limit.isFinite || limit.lt .zero then .error (.badTimeLimit limit)
  else if Binary64.zero.lt limit then .ok ((limit.mul (.ofInt 2)).add (.ofInt 1))
  else .ok .zero

/-- What a run amounts to: memory is looked at first, then time, then the way it ended. -/
def classify (stats : Sandbox.RunStats) (limit : Binary64) : Verdict :=
  if stats.memoryExceeded then .memoryLimitExceeded
  else if stats.killed || (Binary64.zero.lt limit && limit.lt stats.time) then .timeLimitExceeded
  else match stats.signal with
    | some signal => .runtimeError s!"Killed by signal {signal}"
    | none =>
      if stats.exitCode ≠ 0 then .runtimeError s!"Exit code {stats.exitCode}" else .ok

/-- Streams and limits of the submission. -/
def config (task : Execute) (language : Language) (wallTimeLimit : Binary64) :
    Sandbox.RunConfig where
  input := if task.consoleInput then some task.boxPaths.1 else none
  output := if task.consoleInput then .file task.boxPaths.2 else .discard
  memoryLimit := task.memoryLimit
  timeLimit := task.timeLimit
  wallTimeLimit := wallTimeLimit
  maxProcesses := 4
  env := language.runEnv
  mounts := language.mounts

/-- Runs a submission in a language. -/
def executeIn (task : Execute) (language : Language) : Steps ExecuteOutcome := do
  let wallTimeLimit ← orFail id (wallTimeLimit task.timeLimit)
  write task.boxPaths.1 task.input
  call (.copyIn task.binaryPath language.compiledName)
  let command ← resolved language.runCommand
  let stats ← call (.run command (task.config language wallTimeLimit))
  let outcome (verdict : Verdict) : ExecuteOutcome :=
    { verdict, time := stats.time, memory := stats.memory }
  match classify stats task.timeLimit with
  | .ok =>
    match ← ask (.box (.fetch task.boxPaths.2)) with
    | .error _ => return outcome (.runtimeError "Missing output file")
    | .ok produced =>
      store task.outputPath produced false
      return outcome .ok
  | verdict => return outcome verdict

/-- Runs a submission. -/
def steps (registry : Language.Registry) (task : Execute) : Steps ExecuteOutcome := do
  task.executeIn (← enabledLanguage registry task.language)

/-- The program of the task: any failure is its outcome. -/
def program (registry : Language.Registry) (task : Execute) : Program ExecuteOutcome := do
  match ← (task.steps registry).run with
  | .ok outcome => return outcome
  | .error _ => return { verdict := .failed }

end Execute
end Judge.Task
