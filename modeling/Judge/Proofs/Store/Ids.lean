import Judge.Proofs.Store.Memory

/-!
The ids that a store assigns. A store that does to a memory what its calls say, and may fail any of
them, never assigns an id twice: every new one is larger than all that came before, whatever was
deleted or failed since.
-/

namespace Judge.Store

variable {σ : Type}

/-- The id that an answer assigns. -/
def Call.newId? : (call : Call) → call.Answer → Option Int
  | .createTest _, .ok id | .createSubtask _, .ok id => some id
  | _, _ => none

lemma newId?_error (call : Call) (cause : Error) : call.newId? (.error cause) = none := by
  cases call <;> rfl

lemma newId?_congr {call : Call} {answer other : call.Answer} (h : Alike answer other) :
    call.newId? answer = call.newId? other := by
  cases answer with
  | error cause =>
    cases other with
    | error cause' => rw [newId?_error, newId?_error]
    | ok value => simp [Alike, Except.toOption] at h
  | ok value =>
    cases other with
    | error cause => simp [Alike, Except.toOption] at h
    | ok value' =>
      obtain rfl : value = value' := Option.some.inj h
      rfl

namespace Handler

/-- What calls leave of a store. -/
def after (handle : Handler σ) (calls : List Call) (s : σ) : σ :=
  calls.foldl (fun s call => (handle call s).2) s

/-- The ids that calls assign, one after the other. -/
def assigned (handle : Handler σ) : List Call → σ → List Int
  | [], _ => []
  | call :: calls, s =>
    (call.newId? (handle call s).1).toList ++ assigned handle calls (handle call s).2

theorem assigned_append (handle : Handler σ) (first second : List Call) (s : σ) :
    assigned handle (first ++ second) s =
      assigned handle first s ++ assigned handle second (after handle first s) := by
  induction first generalizing s with
  | nil => rfl
  | cons call first ih =>
    rw [List.cons_append, assigned, ih, assigned, List.append_assoc]
    rfl

/-- A program leaves of a store what its calls leave of it. -/
theorem snd_run {α : Type} (handle : Handler σ) (program : Program α) (s : σ) :
    (program.run handle s).2 = after handle (program.trace handle s) s := by
  induction program generalizing s with
  | done result => rfl
  | call call next ih => exact ih _ _

end Handler

/-- The problem whose record a call writes. -/
def Call.rewrites : Call → Option Int
  | .saveProblem record => some record.id
  | .updateProblem id _ => some id
  | _ => none

/-- The test whose data a call changes. -/
def Call.refills : Call → Option Int
  | .saveInput test _ | .saveOutput test _ | .purgeData test => some test
  | _ => none

/-- From one memory to the other tests, subtasks and ids changed as a call says, and of the rest at
most what the call is about. -/
structure Touches (call : Call) (before after : Memory) : Prop where
  tests : after.tests = (Memory.handle call before).2.tests
  subtasks : after.subtasks = (Memory.handle call before).2.subtasks
  lastId : after.lastId = (Memory.handle call before).2.lastId
  problems : ∀ id, call.rewrites ≠ some id → after.problems.get? id = before.problems.get? id
  inputs : ∀ test, call.refills ≠ some test → after.inputs.get? test = before.inputs.get? test
  outputs : ∀ test, call.refills ≠ some test → after.outputs.get? test = before.outputs.get? test

theorem touches_handle (call : Call) (m : Memory) : Touches call m (Memory.handle call m).2 where
  tests := rfl
  subtasks := rfl
  lastId := rfl
  problems id hid := by
    cases call with
    | saveProblem record => exact Table.get?_insert_of_ne _ _ fun h => hid (congrArg some h)
    | updateProblem other update =>
      simp only [Memory.handle]
      split
      · exact Table.get?_insert_of_ne _ _ fun h => hid (congrArg some h)
      · rfl
    | saveInput test source | saveOutput test source =>
      simp only [Memory.handle]
      split <;> rfl
    | problem | createTest | tests | orphanTests | input | output | purgeData | createSubtask
    | subtasks | deleteSubtasks => rfl
  inputs test htest := by
    cases call with
    | saveInput other source =>
      simp only [Memory.handle]
      split
      · exact Table.get?_insert_of_ne _ _ fun h => htest (congrArg some h)
      · rfl
    | purgeData other =>
      simp only [Memory.handle]
      rw [Table.get?_erase, if_neg fun h => htest (congrArg some h)]
    | saveOutput other source =>
      simp only [Memory.handle]
      split <;> rfl
    | updateProblem id update =>
      simp only [Memory.handle]
      split <;> rfl
    | problem | saveProblem | createTest | tests | orphanTests | input | output | createSubtask
    | subtasks | deleteSubtasks => rfl
  outputs test htest := by
    cases call with
    | saveOutput other source =>
      simp only [Memory.handle]
      split
      · exact Table.get?_insert_of_ne _ _ fun h => htest (congrArg some h)
      · rfl
    | purgeData other =>
      simp only [Memory.handle]
      rw [Table.get?_erase, if_neg fun h => htest (congrArg some h)]
    | saveInput other source =>
      simp only [Memory.handle]
      split <;> rfl
    | updateProblem id update =>
      simp only [Memory.handle]
      split <;> rfl
    | problem | saveProblem | createTest | tests | orphanTests | input | output | createSubtask
    | subtasks | deleteSubtasks => rfl

/-- What a memory becomes by a call or by a refusal of it. -/
def Follow (call : Call) (before : Memory) (answer : call.Answer) (after : Memory) : Prop :=
  (after = before ∧ call.newId? answer = none) ∨
    (Touches call before after ∧
      call.newId? answer = call.newId? (Memory.handle call before).1)

/-- A store that does to a memory what its calls say, and may refuse any of them. -/
def Follows (handle : Handler σ) (memory : σ → Memory) : Prop :=
  ∀ call s, Follow call (memory s) (handle call s).1 (memory (handle call s).2)

namespace Follows

theorem memory : Follows Memory.handle id := fun call m => .inr ⟨touches_handle call m, rfl⟩

/-- Any refusals make such a store of another one. -/
theorem faulty {handle : Handler σ} {memory : σ → Memory} (h : Follows handle memory)
    (refusals : List Refusal) :
    Follows (Faulty.handle refusals handle) fun s => memory s.store := by
  intro call s
  simp only [Faulty.handle]
  split
  · exact .inl ⟨rfl, newId?_error call _⟩
  · exact h call s.store

variable {handle : Handler σ} {memory : σ → Memory} {s : σ}

theorem wellFormed (h : Follows handle memory) (hwf : (memory s).WellFormed) (call : Call) :
    (memory (handle call s).2).WellFormed := by
  rcases h call s with ⟨hsame, -⟩ | ⟨htouches, -⟩
  · rwa [hsame]
  · have hnext := Memory.wellFormed_handle hwf call
    exact ⟨by simpa only [htouches.tests, htouches.lastId] using hnext.tests,
      by simpa only [htouches.subtasks, htouches.lastId] using hnext.subtasks⟩

/-- A new id is the next one, and it is the last one then. -/
theorem newId (h : Follows handle memory) (call : Call) :
    (memory s).lastId ≤ (memory (handle call s).2).lastId ∧
      ∀ id, call.newId? (handle call s).1 = some id →
        (memory s).lastId < id ∧ id ≤ (memory (handle call s).2).lastId := by
  rcases h call s with ⟨hsame, hnone⟩ | ⟨htouches, hid⟩
  · rw [hsame, hnone]
    exact ⟨Int.le_refl _, by simp⟩
  · rw [htouches.lastId, hid]
    refine ⟨(Memory.lastId_handle call _).1, fun id hsome => ?_⟩
    cases call with
    | createTest test | createSubtask subtask =>
      obtain rfl : (memory s).lastId + 1 = id := Option.some.inj hsome
      exact ⟨Int.lt_succ _, Int.le_refl _⟩
    | problem | saveProblem | updateProblem | tests | orphanTests | saveInput | saveOutput | input
    | output | purgeData | subtasks | deleteSubtasks => simp [Call.newId?] at hsome

/-- The ids that calls assign ascend from the last one before to the last one after them. -/
theorem ascending (h : Follows handle memory) (calls : List Call) (s : σ) :
    (Handler.assigned handle calls s).Pairwise (· < ·) ∧
      (memory s).lastId ≤ (memory (Handler.after handle calls s)).lastId ∧
      ∀ id ∈ Handler.assigned handle calls s,
        (memory s).lastId < id ∧ id ≤ (memory (Handler.after handle calls s)).lastId := by
  induction calls generalizing s with
  | nil => exact ⟨.nil, Int.le_refl _, by simp [Handler.assigned]⟩
  | cons call calls ih =>
    obtain ⟨hpairwise, hle, hrest⟩ := ih (handle call s).2
    obtain ⟨hstep, hnew⟩ := @newId _ handle memory s h call
    refine ⟨List.pairwise_append.mpr ⟨?_, hpairwise, fun id hid other hother => ?_⟩,
      Int.le_trans hstep hle, fun id hid => ?_⟩
    -- A call assigns at most one id, and later ones are above the last id that it leaves.
    · cases call.newId? (handle call s).1 <;> simp
    · have hid := (hnew id (Option.mem_toList.mp hid)).2
      have hother := (hrest other hother).1
      omega
    · rcases List.mem_append.mp hid with hid | hid
      · have hid := hnew id (Option.mem_toList.mp hid)
        exact ⟨hid.1, Int.le_trans hid.2 hle⟩
      · have hid := hrest id hid
        exact ⟨Int.lt_of_le_of_lt hstep hid.1, hid.2⟩

theorem wellFormed_after (h : Follows handle memory) (hwf : (memory s).WellFormed)
    (calls : List Call) : (memory (Handler.after handle calls s)).WellFormed := by
  induction calls generalizing s with
  | nil => exact hwf
  | cons call calls ih => exact ih (h.wellFormed hwf call)

end Follows
end Judge.Store
