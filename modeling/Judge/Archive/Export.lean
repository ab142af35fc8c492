import Judge.Archive.Properties.Writer
import Judge.Archive.Transfer
import Judge.Slug
import Judge.Text.Blank

/-!
Exporting a problem as an archive that can be imported: the data of each test, a score file, and
the settings if the problem has subtasks. The store is only read.
-/

namespace Judge.Archive

namespace Export

/-- The name in the entries of test data: the test name of the problem, else a slug of its name. -/
def testName (problem : Store.Problem) : String :=
  match Text.trim problem.testName.toList with
  | [] => Slug.ofText problem.name
  | name => String.ofList name

/-- The name of a data entry. -/
def entryName (visibleId : Int) (name : String) (ending : String) : String :=
  String.ofList (Decimal.writeInt visibleId ++ '-' :: name.toList ++ ending.toList)

/-- Adds an entry, whose name must be new. -/
def addEntry (entries : List Entry) (name : String) : Transfer Unit :=
  if entries.any (·.name == name) then throw (.zip (.duplicateName name)) else pure ()

/-- Reads a stream from the store to its end. -/
def contents (source : Source) : Transfer Bytes := .ofExcept (source.readAll.mapError .io)

/-- Adds the data of tests to the entries so far. -/
def addTests (name : String) (entries : List Entry) :
    List Store.Test → Transfer (List Entry)
  | [] => pure entries
  | test :: rest => do
    let inputName := entryName test.visibleId name ".in"
    addEntry entries inputName
    let source ← Transfer.request .getInput (.input test.id)
    let entries := entries ++ [{ name := inputName, data := ← contents source }]
    let outputName := entryName test.visibleId name ".ok"
    addEntry entries outputName
    let source ← Transfer.request .getOutput (.output test.id)
    let entries := entries ++ [{ name := outputName, data := ← contents source }]
    addTests name entries rest

/-- A score file with one line per test. -/
def scoreFile (tests : List Store.Test) : List Char :=
  tests.flatMap fun test =>
    Decimal.writeInt test.visibleId ++ ' ' :: Decimal.writeInt test.score ++ ['\n']

/-- The visible ids of those of the listed ids that belong to live tests; of two tests with one id
the later one counts. -/
def visibleIds (tests : List Store.Test) (ids : List Int) : List Int :=
  ids.filterMap fun id => (tests.reverse.find? fun test => test.id == id).map (·.visibleId)

/-- The subtasks as groups, numbered from one in their stored order. -/
def groups (tests : List Store.Test) (subtasks : List Store.Subtask) : Table Group :=
  Table.ofList (subtasks.mapIdx fun i s =>
    ((i : Int) + 1, { score := s.score, tests := visibleIds tests s.tests }))

/-- A value unless it is the usual one. -/
def unlessUsual {α : Type} [DecidableEq α] (usual value : α) : Option α :=
  if value = usual then none else some value

/-- The settings of a problem with subtasks. Those that have their usual value are left out. -/
def properties (problem : Store.Problem) (name : String) (tests : List Store.Test)
    (subtasks : List Store.Subtask) : Properties where
  subtasks := some (groups tests subtasks)
  timeLimit := some problem.timeLimit
  memoryLimit := some problem.memoryLimit
  defaultPoints := unlessUsual 0 problem.defaultPoints
  author := unlessUsual "" problem.authorCredits
  source := unlessUsual "" problem.sourceCredits
  consoleInput := some problem.consoleInput
  testName := some name
  tags := unlessUsual [] problem.tags
  sourceSize := unlessUsual Store.defaultSourceSize problem.sourceSize
  scoringStrategy := some problem.scoringStrategy

end Export

open Export in
/-- Exports a problem. -/
def exportArchive (problem : Store.Problem) : Transfer (List Entry) := do
  let tests ← Transfer.request .getTests (.tests problem.id)
  let subtasks ← Transfer.request .getSubtasks (.subtasks problem.id)
  let name := testName problem
  let entries ← addTests name [] tests
  addEntry entries "tests.txt"
  let entries := entries ++ [{ name := "tests.txt", data := Utf8.encode (scoreFile tests) }]
  if subtasks.isEmpty then return entries
  else
    addEntry entries "grader.properties"
    let text := (properties problem name tests subtasks).toText
    return entries ++ [{ name := "grader.properties", data := Utf8.encode text }]

open Export in
/-- What an export that fails has written by then: an entry for each piece of test data that was
asked for, with as much of it as was delivered. -/
def Export.begun {σ : Type} (problem : Store.Problem) (handle : Store.Handler σ) (s : σ) :
    List Entry :=
  let tests := match (handle (.tests problem.id) s).1 with
    | .ok tests => tests
    | .error _ => []
  let delivered : Except Store.Error Source → Bytes
    | .ok source => source.delivered
    | .error _ => []
  let name (id : Int) (ending : String) : String :=
    entryName (((tests.find? (·.id == id)).map (·.visibleId)).getD 0) (testName problem) ending
  ((exportArchive problem).run.trace handle s).filterMap fun
    | .input id => some { name := name id ".in", data := delivered (handle (.input id) s).1 }
    | .output id => some { name := name id ".ok", data := delivered (handle (.output id) s).1 }
    | _ => none

end Judge.Archive
