import Judge.Checker
import Judge.Task
import Judge.Text.Blank
import Judge.Text.Utf8

/-!
Compiling a source file and storing the result on the host. The source of an interpreted language is
stored as it is.
-/

namespace Judge.Task

/-- A source file to be compiled. -/
structure Compile where
  /-- The name of the language. -/
  language : String
  source : Bytes
  /-- Where the compiled program goes on the host. -/
  outputPath : String
  deriving DecidableEq, Repr

/-- What became of a source file. -/
inductive CompileOutcome where
  | pending
  /-- The compiled program is stored. -/
  | compiled (output : String)
  /-- The compiler rejects the source. -/
  | rejected (output : String)
  /-- The judge could not compile. -/
  | failed
  deriving DecidableEq, Repr

namespace CompileOutcome

/-- Whether there is a compiled program. -/
def success : CompileOutcome → Bool
  | .compiled _ => true
  | _ => false

/-- What the compiler says. -/
def output : CompileOutcome → String
  | .pending => ""
  | .compiled output | .rejected output => output
  | .failed => Checker.judgeFailure

end CompileOutcome

namespace Compile

/-- Streams and limits of the compiler. -/
def config (language : Language) : Sandbox.RunConfig where
  output := .capture
  mergeErrors := true
  memoryLimit := 512 * 1024
  wallTimeLimit := .ofInt 30
  maxProcesses := 10
  env := language.buildEnv
  mounts := language.mounts

/-- The outcome of a run of the compiler that left a file or none. -/
def report (stats : Sandbox.RunStats) : String :=
  String.ofList (Text.trim (Utf8.decodeLossy stats.output))

/-- Compiles a source file in a language. -/
def compileIn (task : Compile) (language : Language) : Steps CompileOutcome := do
  write language.sourceName task.source
  if !language.compiled then
    store task.outputPath task.source true
    return .compiled ""
  let wanted ← orFail .noCompileCommand (language.compileCommandFor language.sourceName)
  let command ← resolved wanted
  let stats ← call (.run command (config language))
  if !stats.success then return .rejected (report stats)
  match ← ask (.box (.fetch language.compiledName)) with
  | .error _ => return .rejected (report stats)
  | .ok program =>
    store task.outputPath program true
    return .compiled (report stats)

/-- Compiles a source file. -/
def steps (registry : Language.Registry) (task : Compile) : Steps CompileOutcome := do
  task.compileIn (← enabledLanguage registry task.language)

/-- The program of the task: any failure is its outcome. -/
def program (registry : Language.Registry) (task : Compile) : Program CompileOutcome := do
  match ← (task.steps registry).run with
  | .ok outcome => return outcome
  | .error _ => return .failed

end Compile
end Judge.Task
