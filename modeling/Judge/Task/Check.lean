import Judge.Checker.Output
import Judge.Checker
import Judge.Task
import Judge.Text.Utf8

/-!
Running the compiled checker of a problem on one output. The checker is given the paths of the
output, the expected output and the input, and answers with a score and a message.
-/

namespace Judge.Task

/-- A run of a checker. -/
structure Check where
  /-- The name of the checker's source file, which tells its language. -/
  checkerFile : String
  /-- The compiled checker on the host. -/
  binaryPath : String
  programOutput : Bytes
  correctInput : Bytes
  correctOutput : Bytes
  deriving DecidableEq, Repr

namespace Check

/-- Where the checker finds the output that it judges. -/
def programOutputPath : String := "/box/program.out"

/-- Where the checker finds the input of the test. -/
def correctInputPath : String := "/box/correct.in"

/-- Where the checker finds the expected output. -/
def correctOutputPath : String := "/box/correct.out"

/-- Streams and limits of the checker. They are wide, for its cost is not what is measured. -/
def config (language : Language) : Sandbox.RunConfig where
  output := .capture
  memoryLimit := 512 * 1024
  wallTimeLimit := .ofInt 20
  maxProcesses := 2
  env := language.runEnv
  mounts := language.mounts

/-- Runs the checker and gives what it writes. -/
def runIn (task : Check) (language : Language) : Steps Bytes := do
  write programOutputPath task.programOutput
  write correctInputPath task.correctInput
  write correctOutputPath task.correctOutput
  call (.copyIn task.binaryPath language.compiledName)
  let command ← resolved language.runCommand
  let arguments := [programOutputPath, correctOutputPath, correctInputPath]
  let stats ← call (.run (command ++ arguments) (config language))
  return stats.output

/-- The verdict of what a checker writes. -/
def verdictOf (output : Bytes) : Checker.Verdict :=
  match Checker.readOutput (Utf8.decodeLossy output) with
  | .ok (score, message) => .graded score message
  | .error _ => .badOutput

/-- The program of the task: any failure is its verdict. -/
def program (registry : Language.Registry) (task : Check) : Program Checker.Verdict :=
  match registry.resolveLanguage task.checkerFile with
  | none => return .failed
  | some language => do
    match ← (task.runIn language).run with
    | .ok output => return verdictOf output
    | .error _ => return .failed

end Check
end Judge.Task
