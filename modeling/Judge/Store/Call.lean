import Judge.Script
import Judge.Store

/-!
The calls that a store answers. Listings hold live records in the order of their visible ids.
-/

namespace Judge.Store

/-- A call to a store. -/
inductive Call where
  | problem (id : Int)
  /-- Adds a problem, or replaces the one with its id. -/
  | saveProblem (problem : Problem)
  | updateProblem (id : Int) (update : ProblemUpdate)
  /-- Stores a new test under a new id. -/
  | createTest (test : Test)
  | tests (problem : Int)
  /-- Detaches every test from a problem. -/
  | orphanTests (problem : Int)
  | saveInput (test : Int) (source : Source)
  | saveOutput (test : Int) (source : Source)
  | input (test : Int)
  | output (test : Int)
  /-- Removes the data of a test, if there is any. -/
  | purgeData (test : Int)
  /-- Stores a new subtask under a new id. -/
  | createSubtask (subtask : Subtask)
  | subtasks (problem : Int)
  | deleteSubtasks (problem : Int)
  deriving DecidableEq, Repr

/-- What a successful call gives. -/
abbrev Call.Value : Call → Type
  | .problem _ => Problem
  | .createTest _ | .createSubtask _ => Int
  | .tests _ => List Test
  | .subtasks _ => List Subtask
  | .input _ | .output _ => Source
  | _ => Unit

/-- What a call answers. -/
abbrev Call.Answer (call : Call) : Type := Except Error call.Value

/-- The name of a call. -/
def Call.name : Call → String
  | .problem _ => "problem"
  | .saveProblem _ => "save_problem"
  | .updateProblem _ _ => "update_problem"
  | .createTest _ => "create_test"
  | .tests _ => "tests"
  | .orphanTests _ => "orphan_tests"
  | .saveInput _ _ => "save_test_input"
  | .saveOutput _ _ => "save_test_output"
  | .input _ => "test_input"
  | .output _ => "test_output"
  | .purgeData _ => "purge_test_data"
  | .createSubtask _ => "create_sub_task"
  | .subtasks _ => "sub_tasks"
  | .deleteSubtasks _ => "delete_sub_tasks"

/-- A kind of store: how it answers calls, given its state. -/
abbrev Handler (σ : Type) := (call : Call) → σ → call.Answer × σ

/-- A program that uses a store. -/
abbrev Program (α : Type) := Script Call Call.Answer α

end Judge.Store
