import Judge.Host.FileTree
import Judge.Path
import Judge.Store.Call
import Judge.Store.Record

/-!
A store that keeps records as JSON files and test data as compressed files:

    counter.json                     the id that was assigned last
    problems/<id>/problem.json
    problems/<id>/tests.json
    problems/<id>/subtasks.json
    tests/<test id>.in[.gz]
    tests/<test id>.out[.gz]

Data is written compressed. Reading takes a plain file first, so a save removes it.
-/

namespace Judge.Store

open Host (FileTree Location Content)

/-- Where a store is: its directory, and how messages show it. -/
structure Root where
  location : Location
  shown : String
  deriving DecidableEq, Repr

/-- A file of a store: its location, and how messages show it. -/
structure Place where
  location : Location
  shown : String
  deriving DecidableEq, Repr

namespace Root

/-- A file below the directory of a store. -/
def place (root : Root) (names : List String) : Place :=
  ⟨root.location ++ names, names.foldl Path.join root.shown⟩

/-- The file with the last id. -/
def counter (root : Root) : Place := root.place ["counter.json"]

/-- The directory of a problem. -/
def problemFile (root : Root) (problem : Int) (name : String) : Place :=
  root.place ["problems", toString problem, name]

/-- The record of a problem. -/
def problem (root : Root) (id : Int) : Place := root.problemFile id "problem.json"

/-- The tests of a problem. -/
def tests (root : Root) (id : Int) : Place := root.problemFile id "tests.json"

/-- The subtasks of a problem. -/
def subtasks (root : Root) (id : Int) : Place := root.problemFile id "subtasks.json"

/-- The input of a test. -/
def input (root : Root) (test : Int) : Place := root.place ["tests", s!"{test}.in"]

/-- The output of a test. -/
def output (root : Root) (test : Int) : Place := root.place ["tests", s!"{test}.out"]

end Root

namespace Place

/-- The file beside a file whose name has an ending added. -/
def addEnding (place : Place) (ending : String) : Place :=
  ⟨place.location.dropLast ++ [place.location.getLast?.getD "" ++ ending], place.shown ++ ending⟩

/-- The compressed form of a file. -/
def compressed (place : Place) : Place := place.addEnding ".gz"

/-- The file in which a record is written before it replaces the old one. -/
def draft (place : Place) : Place := place.addEnding ".tmp"

end Place

namespace Disk

/-- An action on the files of a store, which may fail; what it did before failing stays. -/
abbrev Action (α : Type) := ExceptT Error (StateM FileTree) α

/-- Changes the files, or fails with an error made from the cause. -/
def change (step : FileTree → Except IoError FileTree) (error : IoError → Error) : Action Unit := do
  match step (← get) with
  | .ok tree => set tree
  | .error cause => throw (error cause)

/-- Reads a record, if its file is there. -/
def readRecord? {α : Type} (place : Place) (decoder : Json.Decoder α) : Action (Option α) := do
  match (← get).read place.location with
  | .ok content =>
    match Store.readRecord? decoder content.bytes with
    | some value => return some value
    | none => throw (.corrupt place.shown)
  | .error .missing => return none
  | .error .isDirectory => throw (.corrupt place.shown)
  | .error _ => throw (.cannotOpen place.shown)

/-- Writes a record next to its file and then replaces the file. -/
def writeRecord (place : Place) (value : Json.Value) : Action Unit := do
  change (·.makeDirectories place.location.dropLast) .io
  let content := Content.plain (recordText value)
  change (·.write place.draft.location content) fun _ => .cannotCreate place.draft.shown
  change (·.rename place.draft.location place.location) fun _ => .cannotReplace place.shown

/-- Removes a file, if it is there. -/
def removeIfExists (place : Place) : Action Unit := do
  match (← get).removeFile place.location with
  | .ok tree => set tree
  | .error .missing => pure ()
  | .error _ => throw (.cannotRemove place.shown)

/-- Writes the data of a stream compressed and removes a plain copy. A fault of the stream leaves
the bytes delivered before it. -/
def writeBlob (place : Place) (source : Source) : Action Unit := do
  change (·.write place.compressed.location (.gzip source.delivered)) fun _ =>
    .cannotCreate place.compressed.shown
  if let some fault := source.fault then throw (.io fault)
  removeIfExists place

/-- Opens the data at a place, a plain file first. A directory opens and fails when it is read. -/
def openBlob (place : Place) : Action Source := do
  let tree ← get
  match tree.read place.location with
  | .ok content => return ⟨content.bytes, none⟩
  | .error .isDirectory => return ⟨[], some .isDirectory⟩
  | .error .missing =>
    match tree.read place.compressed.location with
    | .ok content => return content.decompressed
    | .error .isDirectory => return ⟨[], some .isDirectory⟩
    | .error _ => throw (.noBlob place.shown)
  | .error _ => throw (.cannotOpen place.shown)

/-- The next id, which is kept before it is used. -/
def nextId (root : Root) : Action Int := do
  let last ← readRecord? root.counter (Json.asInt Decimal.int64)
  let id := last.getD 0 + 1
  writeRecord root.counter (.int id)
  return id

/-- All tests of a problem in the order of their creation. -/
def loadTests (root : Root) (problem : Int) : Action (List Test) := do
  return (← readRecord? (root.tests problem) (Json.asList Test.ofReading)).getD []

/-- Replaces the tests of a problem. -/
def storeTests (root : Root) (problem : Int) (tests : List Test) : Action Unit :=
  writeRecord (root.tests problem) (.list (tests.map Test.toValue))

/-- All subtasks of a problem in the order of their creation. -/
def loadSubtasks (root : Root) (problem : Int) : Action (List Subtask) := do
  return (← readRecord? (root.subtasks problem) (Json.asList Subtask.ofReading)).getD []

/-- Replaces the subtasks of a problem. -/
def storeSubtasks (root : Root) (problem : Int) (subtasks : List Subtask) : Action Unit :=
  writeRecord (root.subtasks problem) (.list (subtasks.map Subtask.toValue))

/-- The record of a problem, which must be there. -/
def loadProblem (root : Root) (id : Int) : Action Problem := do
  match ← readRecord? (root.problem id) Problem.ofReading with
  | some problem => return problem
  | none => throw (.noProblem id)

/-- What a call does. -/
def perform (root : Root) : (call : Call) → Action call.Value
  | .problem id => loadProblem root id
  | .saveProblem problem => writeRecord (root.problem problem.id) problem.toValue
  | .updateProblem id update => do
    let problem ← loadProblem root id
    writeRecord (root.problem id) (problem.apply update).toValue
  | .createTest test => do
    let tests ← loadTests root test.problemId
    let id ← nextId root
    storeTests root test.problemId (tests ++ [{ test with id := id }])
    return id
  | .tests problem => do
    let tests ← loadTests root problem
    return (tests.filter (!·.orphaned)).mergeSort fun a b => a.visibleId ≤ b.visibleId
  | .orphanTests problem => do
    let tests ← loadTests root problem
    storeTests root problem (tests.map fun test => { test with orphaned := true })
  | .saveInput test source => writeBlob (root.input test) source
  | .saveOutput test source => writeBlob (root.output test) source
  | .input test => openBlob (root.input test)
  | .output test => openBlob (root.output test)
  | .purgeData test => do
    for place in [root.input test, root.output test] do
      removeIfExists place.compressed
      removeIfExists place
  | .createSubtask subtask => do
    let subtasks ← loadSubtasks root subtask.problemId
    let id ← nextId root
    storeSubtasks root subtask.problemId (subtasks ++ [{ subtask with id := id }])
    return id
  | .subtasks problem => do
    return (← loadSubtasks root problem).mergeSort fun a b => a.visibleId ≤ b.visibleId
  | .deleteSubtasks problem => storeSubtasks root problem []

/-- Answers a call on the files below a root. -/
def handle (root : Root) : Handler FileTree := fun call tree => (perform root call).run tree

/-- Prepares the directories of a store. -/
def openStore (root : Root) : Action Unit := do
  for name in ["problems", "tests"] do
    let place := root.place [name]
    change (·.makeDirectories place.location) fun _ => .cannotCreate place.shown

end Disk
end Judge.Store
