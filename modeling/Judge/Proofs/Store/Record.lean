import Judge.Proofs.Json.Reads
import Judge.Store.Call
import Judge.Store.Record

/-!
Records are read back from their files, if their numbers fit the types of their fields.
-/

namespace Judge.Store

open Json (Decoder Value Holds holds_int holds_bool holds_text holds_real holds_list holds_record)

theorem readRecord?_recordText {α : Type} {decoder : Decoder α} {value : Value} {taken : α}
    (h : Holds decoder value taken) : readRecord? decoder (recordText value) = some taken := by
  rw [readRecord?, recordText, h.decode_write]
  rfl

/-- The numbers of a problem fit. -/
structure Problem.Sized (p : Problem) : Prop where
  id : Decimal.int64.contains p.id = true
  memoryLimit : Decimal.int64.contains p.memoryLimit = true
  defaultPoints : Decimal.int32.contains p.defaultPoints = true
  sourceSize : Decimal.int64.contains p.sourceSize = true

/-- The numbers of a test fit. -/
structure Test.Sized (t : Test) : Prop where
  id : Decimal.int64.contains t.id = true
  problemId : Decimal.int64.contains t.problemId = true
  visibleId : Decimal.int32.contains t.visibleId = true
  score : Decimal.int32.contains t.score = true

/-- The numbers of a subtask fit. -/
structure Subtask.Sized (s : Subtask) : Prop where
  id : Decimal.int64.contains s.id = true
  problemId : Decimal.int64.contains s.problemId = true
  visibleId : Decimal.int32.contains s.visibleId = true
  score : Decimal.int32.contains s.score = true
  tests : ∀ id ∈ s.tests, Decimal.int64.contains id = true

/-- The numbers of a change fit. -/
structure ProblemUpdate.Sized (u : ProblemUpdate) : Prop where
  memoryLimit : ∀ n ∈ u.memoryLimit, Decimal.int64.contains n = true
  defaultPoints : ∀ n ∈ u.defaultPoints, Decimal.int32.contains n = true
  sourceSize : ∀ n ∈ u.sourceSize, Decimal.int64.contains n = true

/-- The numbers of a call fit their types. -/
def Call.Sized : Call → Prop
  | .saveProblem record => record.Sized
  | .updateProblem id update => Decimal.int64.contains id = true ∧ update.Sized
  | .createTest test => Test.Sized { test with id := 0 }
  | .createSubtask subtask => Subtask.Sized { subtask with id := 0 }
  | .problem id | .tests id | .orphanTests id | .subtasks id | .deleteSubtasks id | .saveInput id _
  | .saveOutput id _ | .input id | .output id | .purgeData id => Decimal.int64.contains id = true

lemma contains_int64 {n : Int} (h : Decimal.int32.contains n = true) :
    Decimal.int64.contains n = true := by
  rw [Decimal.Bounds.contains_iff] at h ⊢
  simp only [Decimal.int32, Decimal.int64] at h ⊢
  omega

lemma holds_id {n : Int} (h : Decimal.int64.contains n = true) :
    Holds (Json.asInt Decimal.int64) (.int n) n := holds_int h h

lemma holds_short {n : Int} (h : Decimal.int32.contains n = true) :
    Holds (Json.asInt Decimal.int32) (.int n) n := holds_int h (contains_int64 h)

theorem Test.Sized.holds {t : Test} (h : t.Sized) : Holds Test.ofReading t.toValue t :=
  holds_record (by decide) <|
    .cons ((holds_id h.id).map _) <|
    .cons ((holds_id h.problemId).map _) <|
    .cons ((holds_short h.visibleId).map _) <|
    .cons ((holds_short h.score).map _) <|
    .cons ((holds_bool t.orphaned).map _) .nil

theorem Subtask.Sized.holds {s : Subtask} (h : s.Sized) : Holds Subtask.ofReading s.toValue s :=
  holds_record (by decide) <|
    .cons ((holds_id h.id).map _) <|
    .cons ((holds_id h.problemId).map _) <|
    .cons ((holds_short h.visibleId).map _) <|
    .cons ((holds_short h.score).map _) <|
    .cons ((holds_list fun id hid => holds_id (h.tests id hid)).map _) .nil

/-- A problem is read back if its time limit is. -/
theorem Problem.Sized.holds {p : Problem} (h : p.Sized) (hlimit : Json.Recordable p.timeLimit) :
    Holds Problem.ofReading p.toValue p :=
  holds_record (by decide) <|
    .cons ((holds_id h.id).map _) <|
    .cons ((holds_text p.name).map _) <|
    .cons ((holds_text p.testName).map _) <|
    .cons ((holds_real hlimit).map _) <|
    .cons ((holds_id h.memoryLimit).map _) <|
    .cons ((holds_short h.defaultPoints).map _) <|
    .cons ((holds_text p.authorCredits).map _) <|
    .cons ((holds_text p.sourceCredits).map _) <|
    .cons ((holds_bool p.consoleInput).map _) <|
    .cons ((holds_id h.sourceSize).map _) <|
    .cons ((holds_text p.scoringStrategy).map _) <|
    .cons ((holds_list fun tag _ => holds_text tag).map _) .nil

end Judge.Store
