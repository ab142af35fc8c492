import Judge.Store.Faulty
import Judge.Store.Memory
import Judge.Proofs.Table

/-!
The states of a store in memory. Every record has an id that was assigned to it, so the next id is
new; a call that fails changes nothing, and a store may also fail more calls than the memory would.
-/

namespace Judge.Store

/-- Answers that are the same as far as a program can tell: both give the same, or both fail. -/
def Alike {ε α : Type} (a b : Except ε α) : Prop := a.toOption = b.toOption

namespace Memory

/-- The states that calls lead to from the empty store. -/
inductive Reachable : Memory → Prop where
  | empty : Reachable {}
  | call {s : Memory} (call : Call) : Reachable s → Reachable (handle call s).2

/-- What calls leave of a memory. -/
def afterCalls (s : Memory) (calls : List Call) : Memory :=
  calls.foldl (fun s call => (handle call s).2) s

theorem Reachable.afterCalls {s : Memory} (h : s.Reachable) (calls : List Call) :
    (s.afterCalls calls).Reachable := by
  induction calls generalizing s with
  | nil => exact h
  | cons call calls ih => exact ih (.call call h)

theorem Reachable.run {s : Memory} (h : s.Reachable) {α : Type} (program : Program α) :
    (program.run handle s).2.Reachable := by
  induction program generalizing s with
  | done result => exact h
  | call c next ih => exact ih _ (.call c h)

/-- Every record is kept under its own id, and no id is larger than the last one assigned. -/
structure WellFormed (s : Memory) : Prop where
  tests : ∀ e ∈ s.tests.entries, e.2.id = e.1 ∧ e.1 ≤ s.lastId
  subtasks : ∀ e ∈ s.subtasks.entries, e.2.id = e.1 ∧ e.1 ≤ s.lastId

lemma WellFormed.key_le {s : Memory} (h : s.WellFormed) {key : Int} (hkey : key ∈ s.tests.keys) :
    key < s.lastId + 1 := by
  obtain ⟨e, he, rfl⟩ := List.mem_map.mp hkey
  have := (h.tests e he).2
  omega

lemma WellFormed.subtask_key_le {s : Memory} (h : s.WellFormed) {key : Int}
    (hkey : key ∈ s.subtasks.keys) : key < s.lastId + 1 := by
  obtain ⟨e, he, rfl⟩ := List.mem_map.mp hkey
  have := (h.subtasks e he).2
  omega

lemma WellFormed.id_le_lastId {s : Memory} (h : s.WellFormed) {problem : Int} {test : Test}
    (htest : test ∈ s.allTests problem) : test.id ≤ s.lastId := by
  obtain ⟨e, he, rfl⟩ := List.mem_map.mp (List.mem_filter.mp htest).1
  obtain ⟨hid, hle⟩ := h.tests e he
  exact hid ▸ hle

lemma mem_allTests_of_mem_liveTests {s : Memory} {problem : Int} {test : Test}
    (h : test ∈ s.liveTests problem) : test ∈ s.allTests problem :=
  (List.mem_filter.mp (List.mem_mergeSort.mp h)).1

/-- A new test comes behind the tests that there are. -/
theorem entries_createTest {s : Memory} (h : s.WellFormed) (test : Test) :
    (s.createTest test).tests.entries =
      s.tests.entries ++ [(s.lastId + 1, { test with id := s.lastId + 1 })] :=
  Table.entries_insert_of_lt fun _ => h.key_le

/-- A new subtask comes behind the subtasks that there are. -/
theorem entries_createSubtask {s : Memory} (h : s.WellFormed) (subtask : Subtask) :
    (s.createSubtask subtask).subtasks.entries =
      s.subtasks.entries ++ [(s.lastId + 1, { subtask with id := s.lastId + 1 })] :=
  Table.entries_insert_of_lt fun _ => h.subtask_key_le

lemma wellFormed_createTest {s : Memory} (h : s.WellFormed) (test : Test) :
    (s.createTest test).WellFormed := by
  constructor
  · intro e he
    rw [entries_createTest h, List.mem_append, List.mem_singleton] at he
    rcases he with he | rfl
    · have := h.tests e he
      exact ⟨this.1, by simp only [createTest]; omega⟩
    · exact ⟨rfl, Int.le_refl _⟩
  · intro e he
    have := h.subtasks e he
    exact ⟨this.1, by simp only [createTest]; omega⟩

lemma wellFormed_createSubtask {s : Memory} (h : s.WellFormed) (subtask : Subtask) :
    (s.createSubtask subtask).WellFormed := by
  constructor
  · intro e he
    have := h.tests e he
    exact ⟨this.1, by simp only [createSubtask]; omega⟩
  · intro e he
    rw [entries_createSubtask h, List.mem_append, List.mem_singleton] at he
    rcases he with he | rfl
    · have := h.subtasks e he
      exact ⟨this.1, by simp only [createSubtask]; omega⟩
    · exact ⟨rfl, Int.le_refl _⟩

lemma wellFormed_orphanTests {s : Memory} (h : s.WellFormed) (problem : Int) :
    (s.orphanTests problem).WellFormed := by
  constructor
  · intro e he
    obtain ⟨d, hd, rfl⟩ := List.mem_map.mp he
    have := h.tests d hd
    constructor
    · simp only
      split <;> exact this.1
    · exact this.2
  · exact h.subtasks

/-- Every call keeps the ids in order. -/
theorem wellFormed_handle {s : Memory} (h : s.WellFormed) (call : Call) :
    (handle call s).2.WellFormed := by
  cases call with
  | createTest test => exact wellFormed_createTest h test
  | createSubtask subtask => exact wellFormed_createSubtask h subtask
  | orphanTests problem => exact wellFormed_orphanTests h problem
  | deleteSubtasks problem =>
    exact ⟨h.tests, fun e he => h.subtasks e (List.mem_filter.mp he).1⟩
  | updateProblem id update =>
    simp only [handle]
    split
    · exact ⟨h.tests, h.subtasks⟩
    · exact h
  | saveInput test source =>
    simp only [handle]
    split
    · exact ⟨h.tests, h.subtasks⟩
    · exact h
  | saveOutput test source =>
    simp only [handle]
    split
    · exact ⟨h.tests, h.subtasks⟩
    · exact h
  | saveProblem problem => exact ⟨h.tests, h.subtasks⟩
  | purgeData test => exact ⟨h.tests, h.subtasks⟩
  | problem id => exact h
  | tests problem => exact h
  | input test => exact h
  | output test => exact h
  | subtasks problem => exact h

theorem Reachable.wellFormed {s : Memory} (h : s.Reachable) : s.WellFormed := by
  induction h with
  | empty => exact ⟨by simp, by simp⟩
  | call call _ ih => exact wellFormed_handle ih call

/-- A call assigns at most one id, the next one. -/
theorem lastId_handle (call : Call) (s : Memory) :
    s.lastId ≤ (handle call s).2.lastId ∧ (handle call s).2.lastId ≤ s.lastId + 1 := by
  have hsame : s.lastId ≤ s.lastId ∧ s.lastId ≤ s.lastId + 1 := by omega
  cases call with
  | createTest test => exact ⟨hsame.2, Int.le_refl _⟩
  | createSubtask subtask => exact ⟨hsame.2, Int.le_refl _⟩
  | updateProblem id update =>
    simp only [handle]
    split <;> exact hsame
  | saveInput test source =>
    simp only [handle]
    split <;> exact hsame
  | saveOutput test source =>
    simp only [handle]
    split <;> exact hsame
  | problem | saveProblem | tests | orphanTests | input | output | purgeData | subtasks
  | deleteSubtasks => exact hsame

/-- Every problem is kept under its own id. -/
theorem Reachable.id_of_get? {s : Memory} (h : s.Reachable) {key : Int} {record : Problem}
    (hget : s.problems.get? key = some record) : record.id = key := by
  induction h generalizing key record with
  | empty => simp [Table.get?_empty] at hget
  | @call s call _ ih =>
    have hinsert : ∀ {other : Int} {changed : Problem}, changed.id = other →
        (s.problems.insert other changed).get? key = some record → record.id = key := by
      intro other changed hid hget
      rw [Table.get?_insert] at hget
      split at hget
      · next hsame => rw [← Option.some.inj hget, hid, hsame]
      · exact ih hget
    cases call with
    | saveProblem problem => exact hinsert rfl hget
    | updateProblem id update =>
      simp only [handle] at hget
      split at hget
      · next problem hproblem =>
        have hid : problem.id = id := ih hproblem
        exact @hinsert id (problem.apply update) hid hget
      · exact ih hget
    | saveInput test source =>
      simp only [handle] at hget
      split at hget <;> exact ih hget
    | saveOutput test source =>
      simp only [handle] at hget
      split at hget <;> exact ih hget
    | problem | createTest | tests | orphanTests | input | output | purgeData | createSubtask
    | subtasks | deleteSubtasks => exact ih hget

/-- The live tests are listed by their visible ids. -/
theorem pairwise_liveTests (s : Memory) (problem : Int) :
    (s.liveTests problem).Pairwise fun x y => x.visibleId ≤ y.visibleId := by
  have hsorted : (s.liveTests problem).Pairwise fun x y => decide (x.visibleId ≤ y.visibleId) := by
    apply List.pairwise_mergeSort
    · intro a b c hab hbc
      exact decide_eq_true (Int.le_trans (of_decide_eq_true hab) (of_decide_eq_true hbc))
    · intro a b
      simp only [Bool.or_eq_true, decide_eq_true_eq]
      exact Int.le_total _ _
  exact hsorted.imp of_decide_eq_true

/-- A call that fails changes nothing. -/
theorem handle_error {s : Memory} {call : Call} {cause : Error}
    (h : (handle call s).1 = .error cause) : (handle call s).2 = s := by
  cases call with
  | updateProblem id update =>
    simp only [handle] at h ⊢
    split at h
    · contradiction
    · rfl
  | saveInput test source =>
    simp only [handle] at h ⊢
    split at h
    · contradiction
    · rfl
  | saveOutput test source =>
    simp only [handle] at h ⊢
    split at h
    · contradiction
    · rfl
  | problem id => rfl
  | tests problem => rfl
  | input test => rfl
  | output test => rfl
  | subtasks problem => rfl
  | saveProblem problem => contradiction
  | createTest test => contradiction
  | orphanTests problem => contradiction
  | purgeData test => contradiction
  | createSubtask subtask => contradiction
  | deleteSubtasks problem => contradiction

end Memory

/-- A store that keeps a memory but may fail any call: a call that succeeds does what the memory
does, and one that fails changes nothing. -/
structure MayRefuse {σ : Type} (handle : Handler σ) (memory : σ → Memory) : Prop where
  answered : ∀ call s value, (handle call s).1 = .ok value →
    Memory.handle call (memory s) = (.ok value, memory (handle call s).2)
  refused : ∀ call s cause, (handle call s).1 = .error cause → memory (handle call s).2 = memory s

namespace MayRefuse

/-- The memory itself is such a store. -/
theorem memory : MayRefuse Memory.handle id where
  answered _ _ _ h := Prod.ext h rfl
  refused _ _ _ h := Memory.handle_error h

/-- Any refusals make such a store of another one. -/
theorem faulty {σ : Type} {handle : Handler σ} {memory : σ → Memory} (h : MayRefuse handle memory)
    (refusals : List Refusal) :
    MayRefuse (Faulty.handle refusals handle) fun s => memory s.store := by
  constructor
  · intro call s value hok
    simp only [Faulty.handle] at hok ⊢
    split at hok
    · contradiction
    · next hpass =>
      rw [if_neg hpass]
      exact h.answered call s.store value hok
  · intro call s cause herror
    simp only [Faulty.handle] at herror ⊢
    split
    · rfl
    · next hpass =>
      rw [if_neg hpass] at herror
      exact h.refused call s.store cause herror

end MayRefuse
end Judge.Store
