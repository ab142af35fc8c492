import Judge.Archive.Scan
import Judge.Archive.Transfer

/-!
Importing an archive into a problem. The archive is read and checked before the first store call;
then the tests of the problem are orphaned and the new ones created in the order of their numbers,
and last come the settings and the subtasks.
-/

namespace Judge.Archive

/-- What an import did. -/
structure Summary where
  tests : Nat := 0
  subtasks : Nat := 0
  problemUpdated : Bool := false
  deriving DecidableEq, Repr

/-- The problem fields that settings change. -/
def Properties.toUpdate (p : Properties) : Store.ProblemUpdate where
  timeLimit := p.timeLimit
  memoryLimit := p.memoryLimit
  defaultPoints := p.defaultPoints
  authorCredits := p.author
  sourceCredits := p.source
  consoleInput := p.consoleInput
  testName := p.testName
  sourceSize := p.sourceSize
  scoringStrategy := p.scoringStrategy

namespace Import

/-- Reads a whole archive, checks it and settles the scores. No store call is made. -/
def prepare (entries : List Entry) : Except Error Scan := do
  match Scan.readEntries entries {} (List.range entries.length) with
  | (_, some error) => throw error
  | (scan, none) =>
    scan.validate
    return scan.inferScores

/-- Opens the data of a test. -/
def openData (entries : List Entry) (index : Nat) : Transfer Source :=
  .ofExcept ((openAt entries index).mapError .zip |>.map (·.2))

/-- Creates the tests with their data. Gives the id of each test number. -/
def createTests (entries : List Entry) (problem : Int) :
    List (Int × TestFiles) → Transfer (List (Int × Int))
  | [] => pure []
  | (number, files) :: rest =>
    match files.input, files.output with
    | some input, some output => do
      let test : Store.Test := { problemId := problem, visibleId := number, score := files.score }
      let id ← Transfer.request .createTest (.createTest test)
      let source ← openData entries input
      Transfer.request .createInput (.saveInput id source)
      let source ← openData entries output
      Transfer.request .createOutput (.saveOutput id source)
      let created ← createTests entries problem rest
      return (number, id) :: created
    | _, _ => throw (.missingFile number)

/-- The ids of the tests of a group. -/
def resolveTests (created : List (Int × Int)) (tests : List Int) : Except Error (List Int) :=
  tests.mapM fun test =>
    match created.lookup test with
    | some id => .ok id
    | none => .error (.unknownSubtaskTest test)

/-- Creates a subtask for each group. -/
def createSubtasks (created : List (Int × Int)) (problem : Int) :
    List (Int × Group) → Transfer Unit
  | [] => pure ()
  | (position, group) :: rest => do
    let tests ← Transfer.ofExcept (resolveTests created group.tests)
    let subtask : Store.Subtask :=
      { problemId := problem, visibleId := position, score := group.score, tests }
    let _ ← Transfer.request .createSubtask (.createSubtask subtask)
    createSubtasks created problem rest

/-- Changes the problem as the settings say. Tells whether there was anything to change. -/
def updateProblem (problem : Int) (update : Store.ProblemUpdate) : Transfer Bool :=
  if update.isEmpty then pure false
  else do
    Transfer.request .updateProblem (.updateProblem problem update)
    return true

/-- Replaces the subtasks of a problem by the groups, if there are any. Gives their number. -/
def replaceSubtasks (created : List (Int × Int)) (problem : Int) :
    Option (Table Group) → Transfer Nat
  | none => pure 0
  | some groups => do
    Transfer.request .deleteSubtasks (.deleteSubtasks problem)
    createSubtasks created problem groups.entries
    return groups.size

/-- The store calls of an import of a prepared archive. -/
def store (entries : List Entry) (problem : Int) (scan : Scan) : Transfer Summary := do
  Transfer.request .orphanTests (.orphanTests problem)
  let created ← createTests entries problem scan.tests.entries
  match scan.properties with
  | none => return { tests := created.length }
  | some properties =>
    let problemUpdated ← updateProblem problem properties.toUpdate
    let subtasks ← replaceSubtasks created problem properties.subtasks
    return { tests := created.length, subtasks, problemUpdated }

end Import

/-- Imports an archive into a problem. -/
def importArchive (entries : List Entry) (problem : Int) : Transfer Summary := do
  let scan ← Transfer.ofExcept (Import.prepare entries)
  Import.store entries problem scan

end Judge.Archive
