import Judge.Proofs.Store.Ids
import Judge.Proofs.Store.Simulation

/-!
What stays true of the memory that a store on disk remembers. Numbers stay in their range as long as
the ids do. If every time limit is read back as it was written and every stream delivers all its
bytes, then what is remembered is what a memory does, so the disk and the memory answer alike.
-/

namespace Judge.Store

/-- A call whose stream delivers all its bytes, and whose time limit is read back as it is
written. -/
def Call.Clean : Call → Prop
  | .saveProblem record => Json.Recordable record.timeLimit
  | .updateProblem _ update => ∀ limit, update.timeLimit = some limit → Json.Recordable limit
  | .saveInput _ source | .saveOutput _ source => source.fault = none
  | _ => True

lemma Problem.reread_eq {p : Problem} (h : p.Sized) (hlimit : Json.Recordable p.timeLimit) :
    p.reread = some p := readRecord?_recordText (h.holds hlimit)

lemma Problem.Sized.apply {p : Problem} (h : p.Sized) {update : ProblemUpdate}
    (hupdate : update.Sized) : (p.apply update).Sized where
  id := h.id
  memoryLimit := by
    cases hlimit : update.memoryLimit with
    | none => simpa [Problem.apply, hlimit] using h.memoryLimit
    | some limit => simpa [Problem.apply, hlimit] using hupdate.memoryLimit limit hlimit
  defaultPoints := by
    cases hpoints : update.defaultPoints with
    | none => simpa [Problem.apply, hpoints] using h.defaultPoints
    | some points => simpa [Problem.apply, hpoints] using hupdate.defaultPoints points hpoints
  sourceSize := by
    cases hsize : update.sourceSize with
    | none => simpa [Problem.apply, hsize] using h.sourceSize
    | some size => simpa [Problem.apply, hsize] using hupdate.sourceSize size hsize

namespace Memory

variable {m m' : Memory} {call : Call}

/-! ### Numbers -/

lemma Sized.congr (h : m.Sized) (htests : m'.tests = m.tests) (hsubtasks : m'.subtasks = m.subtasks)
    (hid : m'.lastId = m.lastId) : m'.Sized where
  tests := by
    simpa only [allTests, htests] using h.tests
  subtasks := by
    simpa only [allSubtasks, hsubtasks] using h.subtasks
  lastId := hid ▸ h.lastId

lemma Sized.contains_next (h : m.Sized) (hid : m.lastId + 1 ≤ Decimal.int64.greatest) :
    Decimal.int64.contains (m.lastId + 1) = true := by
  have hlast := h.lastId
  rw [Decimal.Bounds.contains_iff]
  simp only [Decimal.int64] at hlast hid ⊢
  omega

lemma Sized.createTest (h : m.Sized) (hwf : m.WellFormed) {test : Test}
    (htest : Test.Sized { test with id := 0 }) (hid : m.lastId + 1 ≤ Decimal.int64.greatest) :
    (m.createTest test).Sized where
  tests problem other hother := by
    rw [allTests_of_adds (addsTests_createTest hwf test), List.mem_append] at hother
    rcases hother with hold | hnew
    · exact h.tests problem other hold
    · obtain rfl := List.mem_singleton.mp (List.mem_filter.mp hnew).1
      exact { htest with id := h.contains_next hid }
  subtasks := h.subtasks
  lastId := ⟨by have := h.lastId.1; simp only [Memory.createTest]; omega, hid⟩

lemma Sized.createSubtask (h : m.Sized) (hwf : m.WellFormed) {subtask : Subtask}
    (hsubtask : Subtask.Sized { subtask with id := 0 })
    (hid : m.lastId + 1 ≤ Decimal.int64.greatest) : (m.createSubtask subtask).Sized where
  tests := h.tests
  subtasks problem other hother := by
    rw [allSubtasks_of_adds (addsSubtasks_createSubtask hwf subtask), List.mem_append] at hother
    rcases hother with hold | hnew
    · exact h.subtasks problem other hold
    · obtain rfl := List.mem_singleton.mp (List.mem_filter.mp hnew).1
      exact { hsubtask with id := h.contains_next hid }
  lastId := ⟨by have := h.lastId.1; simp only [Memory.createSubtask]; omega, hid⟩

lemma Sized.orphanTests (h : m.Sized) (problem : Int) : (m.orphanTests problem).Sized where
  tests other test htest := by
    by_cases hsame : other = problem
    · rw [hsame, allTests_orphanTests, orphaned, List.mem_map] at htest
      obtain ⟨old, hold, rfl⟩ := htest
      exact { h.tests problem old hold with }
    · rw [allTests_orphanTests_of_ne m hsame] at htest
      exact h.tests other test htest
  subtasks := h.subtasks
  lastId := h.lastId

lemma Sized.deleteSubtasks (h : m.Sized) (problem : Int) : (m.deleteSubtasks problem).Sized where
  tests := h.tests
  subtasks other subtask hsubtask := by
    by_cases hsame : other = problem
    · rw [hsame, allSubtasks_deleteSubtasks] at hsubtask
      contradiction
    · rw [allSubtasks_deleteSubtasks_of_ne m hsame] at hsubtask
      exact h.subtasks other subtask hsubtask
  lastId := h.lastId

/-- Numbers stay in their range as long as the ids do. -/
theorem Sized.handle (h : m.Sized) (hwf : m.WellFormed) (hcall : call.Sized)
    (hid : (Memory.handle call m).2.lastId ≤ Decimal.int64.greatest) :
    (Memory.handle call m).2.Sized := by
  cases call with
  | createTest test => exact h.createTest hwf hcall hid
  | createSubtask subtask => exact h.createSubtask hwf hcall hid
  | orphanTests problem => exact h.orphanTests problem
  | deleteSubtasks problem => exact h.deleteSubtasks problem
  -- The others leave the tests, the subtasks and the last id alone.
  | updateProblem id update =>
    simp only [Memory.handle]
    split
    · exact h.congr rfl rfl rfl
    · exact h
  | saveInput test source =>
    simp only [Memory.handle]
    split
    · exact h.congr rfl rfl rfl
    · exact h
  | saveOutput test source =>
    simp only [Memory.handle]
    split
    · exact h.congr rfl rfl rfl
    · exact h
  | saveProblem problem => exact h.congr rfl rfl rfl
  | purgeData test => exact h.congr rfl rfl rfl
  | problem | tests | input | output | subtasks => exact h

/-! ### Records of problems -/

/-- The problems of a memory can be written and are read back. -/
def Recorded (m : Memory) : Prop :=
  ∀ id problem, m.problems.get? id = some problem →
    problem.Sized ∧ Json.Recordable problem.timeLimit

lemma Recorded.insert (h : m.Recorded) {id : Int} {problem : Problem} (hsized : problem.Sized)
    (hlimit : Json.Recordable problem.timeLimit) :
    Recorded { m with problems := m.problems.insert id problem } := by
  intro other record hrecord
  rw [Table.get?_insert] at hrecord
  split at hrecord
  · obtain rfl := Option.some.inj hrecord
    exact ⟨hsized, hlimit⟩
  · exact h other record hrecord

theorem Recorded.handle (h : m.Recorded) (hcall : call.Sized) (hclean : call.Clean) :
    (Memory.handle call m).2.Recorded := by
  cases call with
  | saveProblem problem => exact h.insert hcall hclean
  | updateProblem id update =>
    simp only [Memory.handle]
    split
    · next problem hproblem =>
      obtain ⟨hsized, hlimit⟩ := h id problem hproblem
      refine h.insert (hsized.apply hcall.2) ?_
      cases hnew : update.timeLimit with
      | none => simpa [Problem.apply, hnew] using hlimit
      | some limit => simpa [Problem.apply, hnew] using hclean limit hnew
    · exact h
  | saveInput test source =>
    simp only [Memory.handle]
    split <;> exact h
  | saveOutput test source =>
    simp only [Memory.handle]
    split <;> exact h
  | problem | createTest | tests | orphanTests | input | output | purgeData | createSubtask
  | subtasks | deleteSubtasks => exact h

end Memory

namespace Disk

open Host (FileTree)

variable {root : Root} {tree : FileTree} {m : Memory} {call : Call}

/-- What is remembered of tests, subtasks and ids is what a memory keeps of them. -/
lemma remember_records (call : Call) (m : Memory) :
    (remember call m).2.tests = (Memory.handle call m).2.tests ∧
      (remember call m).2.subtasks = (Memory.handle call m).2.subtasks ∧
      (remember call m).2.lastId = (Memory.handle call m).2.lastId := by
  cases call with
  | updateProblem id update =>
    rw [remember, Memory.handle]
    cases m.problems.get? id with
    | none => exact ⟨rfl, rfl, rfl⟩
    | some problem =>
      simp only
      split <;> exact ⟨rfl, rfl, rfl⟩
  | saveInput test source | saveOutput test source =>
    rw [remember, Memory.handle]
    split <;> exact ⟨rfl, rfl, rfl⟩
  | problem | saveProblem | createTest | tests | orphanTests | input | output | purgeData
  | createSubtask | subtasks | deleteSubtasks => exact ⟨rfl, rfl, rfl⟩

lemma touches_remember (call : Call) (m : Memory) : Touches call m (remember call m).2 := by
  obtain ⟨htests, hsubtasks, hid⟩ := remember_records call m
  have hplain := touches_handle call m
  refine ⟨htests, hsubtasks, hid, fun id hne => ?_, fun test hne => ?_, fun test hne => ?_⟩
  · cases call with
    | updateProblem other update =>
      have hother : other ≠ id := fun h => hne (congrArg some h)
      simp only [remember]
      cases m.problems.get? other with
      | none => rfl
      | some problem =>
        cases hread : problem.reread with
        | none => simp only [hread]
        | some read => simp only [hread, Table.get?_insert_of_ne _ _ hother]
    | saveInput test source | saveOutput test source => rfl
    | problem | saveProblem | createTest | tests | orphanTests | input | output | purgeData
    | createSubtask | subtasks | deleteSubtasks => exact hplain.problems id hne
  · cases call with
    | saveInput other source => exact Table.get?_insert_of_ne _ _ fun h => hne (congrArg some h)
    | saveOutput other source => rfl
    | updateProblem id update =>
      simp only [remember]
      cases m.problems.get? id with
      | none => rfl
      | some problem => simp only; split <;> rfl
    | problem | saveProblem | createTest | tests | orphanTests | input | output | purgeData
    | createSubtask | subtasks | deleteSubtasks => exact hplain.inputs test hne
  · cases call with
    | saveOutput other source => exact Table.get?_insert_of_ne _ _ fun h => hne (congrArg some h)
    | saveInput other source => rfl
    | updateProblem id update =>
      simp only [remember]
      cases m.problems.get? id with
      | none => rfl
      | some problem => simp only; split <;> rfl
    | problem | saveProblem | createTest | tests | orphanTests | input | output | purgeData
    | createSubtask | subtasks | deleteSubtasks => exact hplain.outputs test hne

lemma newId?_remember (call : Call) (m : Memory) :
    call.newId? (remember call m).1 = call.newId? (Memory.handle call m).1 := by
  cases call with
  | createTest | createSubtask => rfl
  | problem | saveProblem | updateProblem | tests | orphanTests | saveInput | saveOutput | input
  | output | purgeData | subtasks | deleteSubtasks => rfl

/-- What is remembered follows the calls. -/
theorem follows_remember : Follows remember id := fun call m =>
  .inr ⟨touches_remember call m, newId?_remember call m⟩

theorem sized_remember (hm : m.Sized) (hwf : m.WellFormed) (hcall : call.Sized)
    (hid : (remember call m).2.lastId ≤ Decimal.int64.greatest) : (remember call m).2.Sized := by
  obtain ⟨htests, hsubtasks, hsame⟩ := remember_records call m
  exact (hm.handle hwf hcall (hsame ▸ hid)).congr htests hsubtasks hsame

/-- What is remembered is what a memory does, if nothing is read back differently and no stream ends
early. -/
theorem remember_eq_handle (hm : m.Recorded) (hclean : call.Clean) :
    remember call m = Memory.handle call m := by
  have hread : ∀ source : Source, source.fault = none → source.readAll = .ok source.delivered := by
    intro source hfault
    rw [Source.readAll, hfault]
  cases call with
  | problem id =>
    rw [remember, Memory.handle]
    cases hget : m.problems.get? id with
    | none => rfl
    | some problem =>
      obtain ⟨hsized, hlimit⟩ := hm id problem hget
      simp only [Problem.reread_eq hsized hlimit]
  | updateProblem id update =>
    rw [remember, Memory.handle]
    cases hget : m.problems.get? id with
    | none => rfl
    | some problem =>
      obtain ⟨hsized, hlimit⟩ := hm id problem hget
      simp only [Problem.reread_eq hsized hlimit]
  | saveInput test source =>
    rw [remember, Memory.handle, hread source hclean]
    rfl
  | saveOutput test source =>
    rw [remember, Memory.handle, hread source hclean]
    rfl
  | saveProblem | createTest | tests | orphanTests | input | output | purgeData | createSubtask
  | subtasks | deleteSubtasks => rfl

/-- The last id stays in its range as long as the new ones do. -/
lemma lastId_le_of_newId {bound : Int} (hm : m.lastId ≤ bound)
    (hnew : ∀ id, call.newId? (Memory.handle call m).1 = some id → id ≤ bound) :
    (Memory.handle call m).2.lastId ≤ bound := by
  cases call with
  | createTest test => exact hnew _ rfl
  | createSubtask subtask => exact hnew _ rfl
  | updateProblem id update =>
    simp only [Memory.handle]
    split <;> exact hm
  | saveInput test source | saveOutput test source =>
    simp only [Memory.handle]
    split <;> exact hm
  | problem | saveProblem | tests | orphanTests | input | output | purgeData | subtasks
  | deleteSubtasks => exact hm

/-- A memory that a store on disk takes over as it is. -/
structure Kept (m : Memory) : Prop where
  wellFormed : m.WellFormed
  sized : m.Sized
  recorded : m.Recorded

/-- The disk answers a call as the memory does, and says afterwards what the memory holds. -/
theorem Stores.handle (h : Stores root tree m) (hm : Kept m) (hcall : call.Sized)
    (hclean : call.Clean) : Alike (handle root call tree).1 (Memory.handle call m).1 ∧
      Stores root (Disk.handle root call tree).2 (Memory.handle call m).2 := by
  rw [← remember_eq_handle hm.recorded hclean]
  exact h.simulates hm.wellFormed hm.sized hcall

theorem Kept.handle (hm : Kept m) (hcall : call.Sized) (hclean : call.Clean)
    (hid : (Memory.handle call m).2.lastId ≤ Decimal.int64.greatest) :
    Kept (Memory.handle call m).2 :=
  ⟨Memory.wellFormed_handle hm.wellFormed call, hm.sized.handle hm.wellFormed hcall hid,
    hm.recorded.handle hcall hclean⟩

lemma kept_empty : Kept {} where
  wellFormed := Memory.Reachable.empty.wellFormed
  sized := ⟨by simp [Memory.allTests, Table.values], by simp [Memory.allSubtasks, Table.values],
    by decide⟩
  recorded := by simp [Memory.Recorded, Table.get?_empty]

end Disk
end Judge.Store
