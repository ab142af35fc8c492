import Judge.Sandbox.Pool
import Judge.Task.Check

/-!
Judging an output with the checker of a problem, in a box of a pool.
-/

namespace Judge.Checker

/-- Judges an output with the compiled checker of a submission. -/
def custom (registry : Language.Registry) (checkerFile compilePath : String) (submission : Int)
    (programOutput correctInput correctOutput : Bytes) : StateM Sandbox.Site Verdict := do
  let task : Task.Check :=
    { checkerFile
      binaryPath := binaryPath compilePath submission
      programOutput, correctInput, correctOutput }
  match ← Sandbox.Site.runProgram (task.program registry) with
  | .ok verdict => return verdict
  | .error _ => return .failed

end Judge.Checker
