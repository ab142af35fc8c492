import Judge.Store.Call
import Judge.Table

/-!
A store that keeps everything in memory. One counter gives the ids of tests and subtasks.
-/

namespace Judge.Store

/-- The state of a store in memory. -/
structure Memory where
  problems : Table Problem := .empty
  tests : Table Test := .empty
  subtasks : Table Subtask := .empty
  inputs : Table Bytes := .empty
  outputs : Table Bytes := .empty
  /-- The id that was assigned last. -/
  lastId : Int := 0
  deriving DecidableEq, Inhabited

namespace Memory

/-- Every test ever created for a problem, by id. -/
def allTests (s : Memory) (problem : Int) : List Test :=
  s.tests.values.filter fun t => t.problemId == problem

/-- The live tests of a problem by visible id, those of one visible id by id. -/
def liveTests (s : Memory) (problem : Int) : List Test :=
  ((s.allTests problem).filter (!·.orphaned)).mergeSort fun a b => a.visibleId ≤ b.visibleId

/-- The subtasks of a problem by visible id, those of one visible id by id. -/
def subtasksOf (s : Memory) (problem : Int) : List Subtask :=
  (s.subtasks.values.filter fun t => t.problemId == problem).mergeSort fun a b =>
    a.visibleId ≤ b.visibleId

/-- Marks the tests of a problem as orphaned. -/
def orphanTests (s : Memory) (problem : Int) : Memory :=
  { s with tests := s.tests.mapEntries fun _ t =>
      if t.problemId = problem then { t with orphaned := true } else t }

/-- Stores a test under the next id. -/
def createTest (s : Memory) (test : Test) : Memory :=
  let id := s.lastId + 1
  { s with lastId := id, tests := s.tests.insert id { test with id := id } }

/-- Stores a subtask under the next id. -/
def createSubtask (s : Memory) (subtask : Subtask) : Memory :=
  let id := s.lastId + 1
  { s with lastId := id, subtasks := s.subtasks.insert id { subtask with id := id } }

/-- The data of a test as a stream. -/
def blob (blobs : Table Bytes) (test : Int) : Except Error Source :=
  match blobs.get? test with
  | some bytes => .ok ⟨bytes, none⟩
  | none => .error (.noData test)

/-- Answers a call. A save whose stream fails changes nothing. -/
def handle : Handler Memory
  | .problem id, s =>
    (match s.problems.get? id with | some p => .ok p | none => .error (.noProblem id), s)
  | .saveProblem problem, s => (.ok (), { s with problems := s.problems.insert problem.id problem })
  | .updateProblem id update, s =>
    match s.problems.get? id with
    | some problem => (.ok (), { s with problems := s.problems.insert id (problem.apply update) })
    | none => (.error (.noProblem id), s)
  | .createTest test, s => (.ok (s.lastId + 1), s.createTest test)
  | .tests problem, s => (.ok (s.liveTests problem), s)
  | .orphanTests problem, s => (.ok (), s.orphanTests problem)
  | .saveInput test source, s =>
    match source.readAll with
    | .ok bytes => (.ok (), { s with inputs := s.inputs.insert test bytes })
    | .error cause => (.error (.io cause), s)
  | .saveOutput test source, s =>
    match source.readAll with
    | .ok bytes => (.ok (), { s with outputs := s.outputs.insert test bytes })
    | .error cause => (.error (.io cause), s)
  | .input test, s => (blob s.inputs test, s)
  | .output test, s => (blob s.outputs test, s)
  | .purgeData test, s =>
    (.ok (), { s with inputs := s.inputs.erase test, outputs := s.outputs.erase test })
  | .createSubtask subtask, s => (.ok (s.lastId + 1), s.createSubtask subtask)
  | .subtasks problem, s => (.ok (s.subtasksOf problem), s)
  | .deleteSubtasks problem, s =>
    (.ok (), { s with subtasks := s.subtasks.filter fun _ t => t.problemId != problem })

end Memory
end Judge.Store
