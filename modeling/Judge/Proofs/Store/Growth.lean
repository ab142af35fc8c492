import Judge.Proofs.Store.Memory

/-!
What calls that create records do to a memory: the new records come behind those that there were,
and nothing else changes. From that follow the tests and the subtasks that a problem shows.
-/

namespace Judge.Store.Memory

/-- The tests of a problem, orphaned. -/
def orphaned (s : Memory) (problem : Int) : List Test :=
  (s.allTests problem).map fun test => { test with orphaned := true }

/-- The subtasks of a problem, by id. -/
def allSubtasks (s : Memory) (problem : Int) : List Subtask :=
  s.subtasks.values.filter fun t => t.problemId == problem

/-- From one memory to the other new tests came, some with data, and nothing else changed. -/
structure AddsTests (before after : Memory) (new : List Test) : Prop where
  tests : after.tests.entries = before.tests.entries ++ new.map fun test => (test.id, test)
  fresh : ∀ test ∈ new, before.lastId < test.id ∧ test.id ≤ after.lastId
  lastId : before.lastId ≤ after.lastId
  problems : after.problems = before.problems
  subtasks : after.subtasks = before.subtasks
  inputs : ∀ id ≤ before.lastId, after.inputs.get? id = before.inputs.get? id
  outputs : ∀ id ≤ before.lastId, after.outputs.get? id = before.outputs.get? id

/-- From one memory to the other new subtasks came, and nothing else changed. -/
structure AddsSubtasks (before after : Memory) (new : List Subtask) : Prop where
  subtasks : after.subtasks.entries = before.subtasks.entries ++ new.map fun s => (s.id, s)
  fresh : ∀ subtask ∈ new, before.lastId < subtask.id ∧ subtask.id ≤ after.lastId
  lastId : before.lastId ≤ after.lastId
  problems : after.problems = before.problems
  tests : after.tests = before.tests
  inputs : after.inputs = before.inputs
  outputs : after.outputs = before.outputs

/-- From one memory to the other the record of a problem, if there is one, was changed, and nothing
else was. -/
structure EditsProblem (before after : Memory) (problem : Int) (change : Problem → Problem) :
    Prop where
  record : after.problems.get? problem = (before.problems.get? problem).map change
  others : ∀ other ≠ problem, after.problems.get? other = before.problems.get? other
  rest : after = { before with problems := after.problems }

theorem EditsProblem.refl (s : Memory) (problem : Int) {change : Problem → Problem}
    (h : ∀ record, change record = record) : EditsProblem s s problem change where
  record := by
    have hid : change = id := funext h
    rw [hid, Option.map_id, id]
  others _ _ := rfl
  rest := rfl

theorem editsProblem_insert {s : Memory} {problem : Int} {record : Problem}
    (h : s.problems.get? problem = some record) (change : Problem → Problem) :
    EditsProblem s { s with problems := s.problems.insert problem (change record) } problem
      change where
  record := by
    rw [Table.get?_insert_self, h]
    rfl
  others _ hne := Table.get?_insert_of_ne _ _ (Ne.symm hne)
  rest := rfl

section Tests

variable {a b c : Memory} {new newer : List Test}

theorem AddsTests.refl (s : Memory) : AddsTests s s [] where
  tests := by simp
  fresh _ h := absurd h (by simp)
  lastId := Int.le_refl _
  problems := rfl
  subtasks := rfl
  inputs _ _ := rfl
  outputs _ _ := rfl

theorem AddsTests.trans (h : AddsTests a b new) (k : AddsTests b c newer) :
    AddsTests a c (new ++ newer) where
  tests := by rw [k.tests, h.tests, List.map_append, List.append_assoc]
  fresh test htest := by
    rcases List.mem_append.mp htest with htest | htest
    · exact ⟨(h.fresh test htest).1, Int.le_trans (h.fresh test htest).2 k.lastId⟩
    · exact ⟨Int.lt_of_le_of_lt h.lastId (k.fresh test htest).1, (k.fresh test htest).2⟩
  lastId := Int.le_trans h.lastId k.lastId
  problems := k.problems.trans h.problems
  subtasks := k.subtasks.trans h.subtasks
  inputs id hid := (k.inputs id (Int.le_trans hid h.lastId)).trans (h.inputs id hid)
  outputs id hid := (k.outputs id (Int.le_trans hid h.lastId)).trans (h.outputs id hid)

theorem AddsTests.wellFormed (h : AddsTests a b new) (ha : a.WellFormed) : b.WellFormed := by
  constructor
  · intro e he
    rw [h.tests, List.mem_append] at he
    rcases he with he | he
    · exact ⟨(ha.tests e he).1, Int.le_trans (ha.tests e he).2 h.lastId⟩
    · obtain ⟨test, htest, rfl⟩ := List.mem_map.mp he
      exact ⟨rfl, (h.fresh test htest).2⟩
  · intro e he
    rw [h.subtasks] at he
    exact ⟨(ha.subtasks e he).1, Int.le_trans (ha.subtasks e he).2 h.lastId⟩

theorem addsTests_createTest (h : a.WellFormed) (test : Test) :
    AddsTests a (a.createTest test) [{ test with id := a.lastId + 1 }] where
  tests := entries_createTest h test
  fresh other hother := by
    obtain rfl := List.mem_singleton.mp hother
    exact ⟨Int.lt_succ _, Int.le_refl _⟩
  lastId := Int.le_of_lt (Int.lt_succ _)
  problems := rfl
  subtasks := rfl
  inputs _ _ := rfl
  outputs _ _ := rfl

/-- New data of a new test is not noticed by the older ones. -/
theorem AddsTests.insert_input (h : AddsTests a b new) {id : Int} (hid : a.lastId < id)
    (bytes : Bytes) : AddsTests a { b with inputs := b.inputs.insert id bytes } new :=
  { h with
    inputs := fun other hother => by
      rw [Table.get?_insert_of_ne _ _ (by omega), h.inputs other hother] }

theorem AddsTests.insert_output (h : AddsTests a b new) {id : Int} (hid : a.lastId < id)
    (bytes : Bytes) : AddsTests a { b with outputs := b.outputs.insert id bytes } new :=
  { h with
    outputs := fun other hother => by
      rw [Table.get?_insert_of_ne _ _ (by omega), h.outputs other hother] }

lemma allTests_of_adds (h : AddsTests a b new) (problem : Int) :
    b.allTests problem = a.allTests problem ++ new.filter (·.problemId == problem) := by
  simp [allTests, Table.values, h.tests, Function.comp_def]

/-- Where no test was live, the live tests are the new ones. -/
theorem liveTests_of_adds (h : AddsTests a b new) {problem : Int} (ha : a.liveTests problem = [])
    (hnew : ∀ test ∈ new, test.problemId = problem ∧ test.orphaned = false)
    (hsorted : new.Pairwise fun x y => x.visibleId < y.visibleId) : b.liveTests problem = new := by
  have hnone : (a.allTests problem).filter (!·.orphaned) = [] := by
    rw [← List.length_eq_zero_iff, ← List.length_mergeSort, List.length_eq_zero_iff]
    exact ha
  have hmine : new.filter (·.problemId == problem) = new :=
    List.filter_eq_self.mpr fun test htest => by simp [(hnew test htest).1]
  have hlive : new.filter (!·.orphaned) = new :=
    List.filter_eq_self.mpr fun test htest => by simp [(hnew test htest).2]
  rw [liveTests, allTests_of_adds h, hmine, List.filter_append, hnone, hlive, List.nil_append]
  apply List.mergeSort_of_pairwise
  exact hsorted.imp fun hlt => by simpa using Int.le_of_lt hlt

end Tests

section Subtasks

variable {a b c : Memory} {new newer : List Subtask}

theorem AddsSubtasks.refl (s : Memory) : AddsSubtasks s s [] where
  subtasks := by simp
  fresh _ h := absurd h (by simp)
  lastId := Int.le_refl _
  problems := rfl
  tests := rfl
  inputs := rfl
  outputs := rfl

theorem AddsSubtasks.trans (h : AddsSubtasks a b new) (k : AddsSubtasks b c newer) :
    AddsSubtasks a c (new ++ newer) where
  subtasks := by rw [k.subtasks, h.subtasks, List.map_append, List.append_assoc]
  fresh subtask hs := by
    rcases List.mem_append.mp hs with hs | hs
    · exact ⟨(h.fresh subtask hs).1, Int.le_trans (h.fresh subtask hs).2 k.lastId⟩
    · exact ⟨Int.lt_of_le_of_lt h.lastId (k.fresh subtask hs).1, (k.fresh subtask hs).2⟩
  lastId := Int.le_trans h.lastId k.lastId
  problems := k.problems.trans h.problems
  tests := k.tests.trans h.tests
  inputs := k.inputs.trans h.inputs
  outputs := k.outputs.trans h.outputs

theorem AddsSubtasks.wellFormed (h : AddsSubtasks a b new) (ha : a.WellFormed) : b.WellFormed := by
  constructor
  · intro e he
    rw [h.tests] at he
    exact ⟨(ha.tests e he).1, Int.le_trans (ha.tests e he).2 h.lastId⟩
  · intro e he
    rw [h.subtasks, List.mem_append] at he
    rcases he with he | he
    · exact ⟨(ha.subtasks e he).1, Int.le_trans (ha.subtasks e he).2 h.lastId⟩
    · obtain ⟨subtask, hs, rfl⟩ := List.mem_map.mp he
      exact ⟨rfl, (h.fresh subtask hs).2⟩

theorem addsSubtasks_createSubtask (h : a.WellFormed) (subtask : Subtask) :
    AddsSubtasks a (a.createSubtask subtask) [{ subtask with id := a.lastId + 1 }] where
  subtasks := entries_createSubtask h subtask
  fresh other hother := by
    obtain rfl := List.mem_singleton.mp hother
    exact ⟨Int.lt_succ _, Int.le_refl _⟩
  lastId := Int.le_of_lt (Int.lt_succ _)
  problems := rfl
  tests := rfl
  inputs := rfl
  outputs := rfl

lemma allSubtasks_of_adds (h : AddsSubtasks a b new) (problem : Int) :
    b.allSubtasks problem = a.allSubtasks problem ++ new.filter (·.problemId == problem) := by
  simp [allSubtasks, Table.values, h.subtasks, Function.comp_def]

/-- Where a problem had no subtasks, it has the new ones. -/
theorem subtasksOf_of_adds (h : AddsSubtasks a b new) {problem : Int}
    (ha : a.subtasksOf problem = []) (hnew : ∀ subtask ∈ new, subtask.problemId = problem)
    (hsorted : new.Pairwise fun x y => x.visibleId < y.visibleId) :
    b.subtasksOf problem = new := by
  have hnone : a.allSubtasks problem = [] := by
    rw [← List.length_eq_zero_iff, ← List.length_mergeSort, List.length_eq_zero_iff]
    exact ha
  have hmine : new.filter (·.problemId == problem) = new :=
    List.filter_eq_self.mpr fun subtask hs => by simp [hnew subtask hs]
  rw [subtasksOf, ← allSubtasks, allSubtasks_of_adds h, hnone, hmine, List.nil_append]
  apply List.mergeSort_of_pairwise
  exact hsorted.imp fun hlt => by simpa using Int.le_of_lt hlt

theorem subtasksOf_other_of_adds (h : AddsSubtasks a b new) {problem other : Int}
    (hnew : ∀ subtask ∈ new, subtask.problemId = problem) (hne : other ≠ problem) :
    b.subtasksOf other = a.subtasksOf other := by
  have hnone : new.filter (·.problemId == other) = [] :=
    List.filter_eq_nil_iff.mpr fun subtask hs => by simp [hnew subtask hs, Ne.symm hne]
  rw [subtasksOf, ← allSubtasks, allSubtasks_of_adds h, hnone, List.append_nil, subtasksOf,
    allSubtasks]

end Subtasks

section Replace

variable (s : Memory) {problem other : Int}

theorem allTests_orphanTests : (s.orphanTests problem).allTests problem = s.orphaned problem := by
  simp only [allTests, orphaned, orphanTests, Table.values, Table.mapEntries, List.map_map]
  induction s.tests.entries with
  | nil => rfl
  | cons e rest ih =>
    by_cases h : e.2.problemId = problem
    · simpa [h] using ih
    · simpa [h] using ih

theorem allTests_orphanTests_of_ne (hne : other ≠ problem) :
    (s.orphanTests problem).allTests other = s.allTests other := by
  simp only [allTests, orphanTests, Table.values, Table.mapEntries, List.map_map]
  induction s.tests.entries with
  | nil => rfl
  | cons e rest ih =>
    by_cases h : e.2.problemId = problem
    · simpa [h, Ne.symm hne] using ih
    · by_cases ho : e.2.problemId = other
      · simpa [h, ho, hne] using ih
      · simpa [h, ho] using ih

theorem liveTests_orphanTests : (s.orphanTests problem).liveTests problem = [] := by
  have hnone : ((s.orphanTests problem).allTests problem).filter (!·.orphaned) = [] := by
    rw [allTests_orphanTests, orphaned, List.filter_eq_nil_iff, List.forall_mem_map]
    simp
  rw [liveTests, hnone, List.mergeSort_nil]

/-- Without the subtasks of a problem. -/
def deleteSubtasks (problem : Int) : Memory :=
  { s with subtasks := s.subtasks.filter fun _ t => t.problemId != problem }

theorem allSubtasks_deleteSubtasks : (s.deleteSubtasks problem).allSubtasks problem = [] := by
  rw [allSubtasks, List.filter_eq_nil_iff]
  intro subtask hs
  obtain ⟨e, he, rfl⟩ := List.mem_map.mp hs
  simpa using (List.mem_filter.mp he).2

theorem allSubtasks_deleteSubtasks_of_ne (hne : other ≠ problem) :
    (s.deleteSubtasks problem).allSubtasks other = s.allSubtasks other := by
  simp only [allSubtasks, deleteSubtasks, Table.values, Table.filter]
  induction s.subtasks.entries with
  | nil => rfl
  | cons e rest ih =>
    by_cases h : e.2.problemId = problem
    · simpa [h, Ne.symm hne] using ih
    · by_cases ho : e.2.problemId = other
      · simpa [h, ho, hne] using ih
      · simpa [h, ho] using ih

theorem subtasksOf_deleteSubtasks : (s.deleteSubtasks problem).subtasksOf problem = [] := by
  rw [subtasksOf, ← allSubtasks, allSubtasks_deleteSubtasks, List.mergeSort_nil]

theorem subtasksOf_deleteSubtasks_of_ne (hne : other ≠ problem) :
    (s.deleteSubtasks problem).subtasksOf other = s.subtasksOf other := by
  rw [subtasksOf, ← allSubtasks, allSubtasks_deleteSubtasks_of_ne s hne, subtasksOf, allSubtasks]

end Replace

/-- From one memory to the other at most the record and the subtasks of a problem changed. -/
structure KeepsTests (problem : Int) (before after : Memory) : Prop where
  tests : after.tests = before.tests
  inputs : after.inputs = before.inputs
  outputs : after.outputs = before.outputs
  problems : ∀ other ≠ problem, after.problems.get? other = before.problems.get? other
  subtasks : ∀ other ≠ problem, after.subtasksOf other = before.subtasksOf other

section Keeps

variable {a b c : Memory} {problem : Int}

theorem KeepsTests.refl (problem : Int) (s : Memory) : KeepsTests problem s s :=
  ⟨rfl, rfl, rfl, fun _ _ => rfl, fun _ _ => rfl⟩

theorem KeepsTests.trans (h : KeepsTests problem a b) (k : KeepsTests problem b c) :
    KeepsTests problem a c where
  tests := k.tests.trans h.tests
  inputs := k.inputs.trans h.inputs
  outputs := k.outputs.trans h.outputs
  problems other hne := (k.problems other hne).trans (h.problems other hne)
  subtasks other hne := (k.subtasks other hne).trans (h.subtasks other hne)

theorem KeepsTests.allTests (h : KeepsTests problem a b) (other : Int) :
    b.allTests other = a.allTests other := by
  rw [Memory.allTests, h.tests, Memory.allTests]

theorem KeepsTests.liveTests (h : KeepsTests problem a b) (other : Int) :
    b.liveTests other = a.liveTests other := by
  rw [Memory.liveTests, h.allTests, Memory.liveTests]

theorem EditsProblem.subtasksOf {change : Problem → Problem} (h : EditsProblem a b problem change)
    (other : Int) : b.subtasksOf other = a.subtasksOf other := by
  rw [h.rest]
  rfl

theorem EditsProblem.wellFormed {change : Problem → Problem} (h : EditsProblem a b problem change)
    (ha : a.WellFormed) : b.WellFormed := by
  rw [h.rest]
  exact ⟨ha.tests, ha.subtasks⟩

theorem EditsProblem.keepsTests {change : Problem → Problem} (h : EditsProblem a b problem change) :
    KeepsTests problem a b where
  tests := by rw [h.rest]
  inputs := by rw [h.rest]
  outputs := by rw [h.rest]
  problems := h.others
  subtasks other _ := h.subtasksOf other

theorem keepsTests_of_replaced {new : List Subtask} (h : (a.deleteSubtasks problem).AddsSubtasks b new)
    (hnew : ∀ subtask ∈ new, subtask.problemId = problem) : KeepsTests problem a b where
  tests := h.tests
  inputs := h.inputs
  outputs := h.outputs
  problems _ _ := by rw [h.problems]; rfl
  subtasks other hne := by
    rw [subtasksOf_other_of_adds h hnew hne, subtasksOf_deleteSubtasks_of_ne _ hne]

end Keeps

end Judge.Store.Memory
