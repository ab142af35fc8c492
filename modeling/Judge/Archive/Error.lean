import Judge.Archive.Entry
import Judge.Archive.Properties.Reader
import Judge.Store

/-!
The ways in which reading, importing or exporting an archive fails.
-/

namespace Judge.Archive

/-- What an import or an export was doing when a store call failed. -/
inductive Purpose where
  | orphanTests | createTest | createInput | createOutput | updateProblem | deleteSubtasks
  | createSubtask | getTests | getSubtasks | getInput | getOutput
  deriving DecidableEq, Repr

/-- The wording of each purpose. -/
def Purpose.message : Purpose → String
  | .orphanTests => "Couldn't orphan existing tests"
  | .createTest => "Couldn't create test"
  | .createInput => "Couldn't create test input"
  | .createOutput => "Couldn't create test output"
  | .updateProblem => "Couldn't update problem metadata"
  | .deleteSubtasks => "Couldn't delete existing subtasks"
  | .createSubtask => "Couldn't create subtask"
  | .getTests => "Couldn't get tests"
  | .getSubtasks => "Couldn't get subtasks"
  | .getInput => "Couldn't get test input"
  | .getOutput => "Couldn't get test output"

/-- Why an archive cannot be read, imported or made. -/
inductive Error where
  /-- A score file scores a test that has a score already. -/
  | badScores
  | multipleInputs (test : Int)
  | multipleOutputs (test : Int)
  /-- The groups list a test that the archive does not have. -/
  | subtaskMismatch (subtasked tests : Nat)
  /-- A test lacks its input or its output. -/
  | missingFile (test : Int)
  | unknownSubtaskTest (test : Int)
  | badProperties (cause : PropertiesError)
  | zip (cause : ZipError)
  | io (cause : IoError)
  | store (purpose : Purpose) (cause : Store.Error)
  deriving DecidableEq, Repr

/-- The wording of each cause. -/
def Error.message : Error → String
  | .badScores => "Bad test score file"
  | .multipleInputs test => s!"Multiple input files for test {test}"
  | .multipleOutputs test => s!"Multiple output files for test {test}"
  | .subtaskMismatch subtasked tests =>
    s!"Subtasks reference {subtasked} tests but the archive only has matching data for {tests}"
  | .missingFile test => s!"Missing input or output file for test {test}"
  | .unknownSubtaskTest test =>
    s!"Test {test} not found in added tests. Aborting subtask creation"
  | .badProperties cause => "Bad grader.properties: " ++ cause.message
  | .zip cause => "Bad archive: " ++ cause.message
  | .io cause => cause.message
  | .store purpose cause => purpose.message ++ ": " ++ cause.message

end Judge.Archive
