import Judge.Decimal.Binary64
import Judge.Stream

/-!
The records that a store keeps: problems, their tests, and the subtasks that group tests.
-/

namespace Judge.Store

/-- The source size limit of a new problem, in bytes. -/
def defaultSourceSize : Int := 10000

/-- The scoring strategy of a new problem. -/
def defaultScoringStrategy : String := "max_submission"

/-- A problem. -/
structure Problem where
  id : Int
  name : String
  /-- The base name of the files that programs read and write, unless they use the console. -/
  testName : String := ""
  /-- Seconds. -/
  timeLimit : Decimal.Binary64 := .ofInt 1
  /-- Kilobytes. -/
  memoryLimit : Int := 65536
  defaultPoints : Int := 0
  authorCredits : String := ""
  sourceCredits : String := ""
  consoleInput : Bool := false
  sourceSize : Int := defaultSourceSize
  scoringStrategy : String := defaultScoringStrategy
  tags : List String := []
  deriving DecidableEq, Repr

/-- A change of some fields of a problem; absent fields stay as they are. -/
structure ProblemUpdate where
  timeLimit : Option Decimal.Binary64 := none
  memoryLimit : Option Int := none
  defaultPoints : Option Int := none
  authorCredits : Option String := none
  sourceCredits : Option String := none
  consoleInput : Option Bool := none
  testName : Option String := none
  sourceSize : Option Int := none
  scoringStrategy : Option String := none
  deriving DecidableEq, Repr

namespace ProblemUpdate

/-- Whether an update changes nothing. -/
def isEmpty (update : ProblemUpdate) : Bool := update == {}

end ProblemUpdate

/-- Applies the fields that are present. -/
def Problem.apply (problem : Problem) (update : ProblemUpdate) : Problem :=
  { problem with
    timeLimit := update.timeLimit.getD problem.timeLimit
    memoryLimit := update.memoryLimit.getD problem.memoryLimit
    defaultPoints := update.defaultPoints.getD problem.defaultPoints
    authorCredits := update.authorCredits.getD problem.authorCredits
    sourceCredits := update.sourceCredits.getD problem.sourceCredits
    consoleInput := update.consoleInput.getD problem.consoleInput
    testName := update.testName.getD problem.testName
    sourceSize := update.sourceSize.getD problem.sourceSize
    scoringStrategy := update.scoringStrategy.getD problem.scoringStrategy }

/-- A test of a problem. -/
structure Test where
  /-- Assigned when the test is created. -/
  id : Int := 0
  problemId : Int
  visibleId : Int
  score : Int
  /-- An orphaned test no longer belongs to its problem but keeps its data. -/
  orphaned : Bool := false
  deriving DecidableEq, Repr

/-- A group of tests of a problem. -/
structure Subtask where
  /-- Assigned when the subtask is created. -/
  id : Int := 0
  problemId : Int
  visibleId : Int
  score : Int
  /-- Ids of tests. -/
  tests : List Int
  deriving DecidableEq, Repr

/-- Why a store call fails. -/
inductive Error where
  | noProblem (id : Int)
  | noData (test : Int)
  | noBlob (path : String)
  | cannotOpen (path : String)
  | cannotCreate (path : String)
  | cannotReplace (path : String)
  | cannotRemove (path : String)
  | corrupt (path : String)
  | io (cause : IoError)
  | injected (call : String)
  deriving DecidableEq, Repr

/-- The wording of each cause. -/
def Error.message : Error → String
  | .noProblem id => s!"Problem {id} not found"
  | .noData test => s!"No data stored for test {test}"
  | .noBlob path => s!"No data at {path} or {path}.gz"
  | .cannotOpen path => s!"Failed to open {path}"
  | .cannotCreate path => s!"Failed to create {path}"
  | .cannotReplace path => s!"Failed to replace {path}"
  | .cannotRemove path => s!"Failed to remove {path}"
  | .corrupt path => s!"Corrupt record {path}"
  | .io cause => cause.message
  | .injected call => s!"injected {call} failure"

end Judge.Store
