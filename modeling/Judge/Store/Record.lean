import Judge.Json.Decoder
import Judge.Json.Writer
import Judge.Store

/-!
Records as JSON: how problems, tests and subtasks are written, and how they are read. Fields that
were added later may be absent and then take the values of a new record.
-/

namespace Judge.Store

open Json (Value RecordField Decoder)

/-- The text of a record. -/
def recordText (value : Value) : Bytes := Utf8.encode (Json.write 0 value)

/-- Takes a record out of the bytes of a file. -/
def readRecord? {α : Type} (decoder : Decoder α) (bytes : Bytes) : Option α :=
  (Json.decode decoder bytes).toOption

namespace Problem

/-- A problem as a record. -/
def toValue (p : Problem) : Value := .record [
  ("id", .int p.id),
  ("name", .text p.name),
  ("test_name", .text p.testName),
  ("time_limit", .real p.timeLimit),
  ("memory_limit", .int p.memoryLimit),
  ("default_points", .int p.defaultPoints),
  ("author_credits", .text p.authorCredits),
  ("source_credits", .text p.sourceCredits),
  ("console_input", .bool p.consoleInput),
  ("source_size", .int p.sourceSize),
  ("scoring_strategy", .text p.scoringStrategy),
  ("tags", .list (p.tags.map .text))]

/-- The fields of a problem record. -/
def fields : List (RecordField Problem) := [
  .required "id" fun p r => do return { p with id := ← Json.asInt Decimal.int64 r },
  .required "name" fun p r => do return { p with name := ← Json.asText r },
  .absentOk "test_name" fun p r => do return { p with testName := ← Json.asText r },
  .required "time_limit" fun p r => do return { p with timeLimit := ← Json.asReal r },
  .required "memory_limit" fun p r => do
    return { p with memoryLimit := ← Json.asInt Decimal.int64 r },
  .absentOk "default_points" fun p r => do
    return { p with defaultPoints := ← Json.asInt Decimal.int32 r },
  .absentOk "author_credits" fun p r => do return { p with authorCredits := ← Json.asText r },
  .absentOk "source_credits" fun p r => do return { p with sourceCredits := ← Json.asText r },
  .absentOk "console_input" fun p r => do return { p with consoleInput := ← Json.asBool r },
  .absentOk "source_size" fun p r => do
    return { p with sourceSize := ← Json.asInt Decimal.int64 r },
  .absentOk "scoring_strategy" fun p r => do return { p with scoringStrategy := ← Json.asText r },
  .absentOk "tags" fun p r => do return { p with tags := ← Json.asList Json.asText r }]

/-- Takes a problem out of a record. -/
def ofReading : Decoder Problem := Json.asRecord fields { id := 0, name := "" }

end Problem

namespace Test

/-- A test as a record. -/
def toValue (t : Test) : Value := .record [
  ("id", .int t.id),
  ("problem_id", .int t.problemId),
  ("visible_id", .int t.visibleId),
  ("score", .int t.score),
  ("orphaned", .bool t.orphaned)]

/-- The fields of a test record. -/
def fields : List (RecordField Test) := [
  .required "id" fun t r => do return { t with id := ← Json.asInt Decimal.int64 r },
  .required "problem_id" fun t r => do return { t with problemId := ← Json.asInt Decimal.int64 r },
  .required "visible_id" fun t r => do return { t with visibleId := ← Json.asInt Decimal.int32 r },
  .required "score" fun t r => do return { t with score := ← Json.asInt Decimal.int32 r },
  .absentOk "orphaned" fun t r => do return { t with orphaned := ← Json.asBool r }]

/-- Takes a test out of a record. -/
def ofReading : Decoder Test := Json.asRecord fields { problemId := 0, visibleId := 0, score := 0 }

end Test

namespace Subtask

/-- A subtask as a record. -/
def toValue (s : Subtask) : Value := .record [
  ("id", .int s.id),
  ("problem_id", .int s.problemId),
  ("visible_id", .int s.visibleId),
  ("score", .int s.score),
  ("tests", .list (s.tests.map .int))]

/-- The fields of a subtask record. -/
def fields : List (RecordField Subtask) := [
  .required "id" fun s r => do return { s with id := ← Json.asInt Decimal.int64 r },
  .required "problem_id" fun s r => do return { s with problemId := ← Json.asInt Decimal.int64 r },
  .required "visible_id" fun s r => do return { s with visibleId := ← Json.asInt Decimal.int32 r },
  .required "score" fun s r => do return { s with score := ← Json.asInt Decimal.int32 r },
  .required "tests" fun s r => do
    return { s with tests := ← Json.asList (Json.asInt Decimal.int64) r }]

/-- Takes a subtask out of a record. -/
def ofReading : Decoder Subtask :=
  Json.asRecord fields { problemId := 0, visibleId := 0, score := 0, tests := [] }

end Subtask
end Judge.Store
