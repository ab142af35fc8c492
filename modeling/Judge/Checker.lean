import Judge.Path
import Judge.Decimal.Integer

/-!
What a checker concludes about one test, and where compiled checkers are kept.
-/

namespace Judge.Checker

/-- What is shown when the judge itself fails. -/
def judgeFailure : String := "Internal grader error"

/-- What is shown when the output of a checker is no score with a message. -/
def badOutput : String := "Wrong checker output"

/-- What a checker concluded. -/
inductive Verdict where
  | pending
  | graded (score : Int) (output : String)
  /-- The checker ran, but its output is no score with a message. -/
  | badOutput
  /-- The checker could not be run. -/
  | failed
  deriving DecidableEq, Repr

namespace Verdict

/-- The score, if there is one. -/
def score? : Verdict → Option Int
  | .graded score _ => some score
  | _ => none

/-- What is shown to the author of a submission. -/
def output : Verdict → String
  | .pending => ""
  | .graded _ output => output
  | .badOutput => Checker.badOutput
  | .failed => judgeFailure

end Verdict

/-- Where the compiled checker of a submission is kept. Its number is the negated number of the
submission, whose own program stands in the same directory. -/
def binaryPath (compilePath : String) (submission : Int) : String :=
  Path.join compilePath (String.ofList (Decimal.writeInt (-submission)) ++ ".bin")

end Judge.Checker
