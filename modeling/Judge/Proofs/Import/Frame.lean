import Judge.Proofs.Import.Calls
import Judge.Proofs.Import.Outcome
import Judge.Proofs.Store.View

/-!
What an import leaves alone, however it ends: the records, the tests and the subtasks of other
problems, and every test there was with its data, except that those of its own problem may be
orphaned. This holds for a store of either kind, after any history of calls, whichever calls fail.
-/

namespace Judge.Archive.Import

open Decimal (int64)
open Host (FileTree)
open Store (Call Faulty Follows Handler Memory Refusal Root Touches View)
open Store.Disk (Blank Matches openStore refusing remembering newRoot newTree blank_newRoot
  openStore_newRoot)
open Transfer (Sat runOn)

/-- A test is as it was, or orphaned at most. -/
def Stays (was is : Store.Test) : Prop := is = was ∨ is = { was with orphaned := true }

/-- From one memory to the other nothing changed but what an import into a problem owns: its record,
its subtasks, tests after those it has, and the data of tests with an id after the last one. -/
structure Frame (problem last : Int) (before after : Memory) : Prop where
  records : ∀ other ≠ problem, after.problems.get? other = before.problems.get? other
  tests : ∀ other ≠ problem, after.allTests other = before.allTests other
  subtasks : ∀ other ≠ problem, after.allSubtasks other = before.allSubtasks other
  own : ∀ (i : Nat) test, (before.allTests problem)[i]? = some test →
    ∃ now, (after.allTests problem)[i]? = some now ∧ Stays test now
  inputs : ∀ id ≤ last, after.inputs.get? id = before.inputs.get? id
  outputs : ∀ id ≤ last, after.outputs.get? id = before.outputs.get? id

section Frame

variable {problem last : Int} {a b c : Memory} {entries : List Entry} {call : Call}

lemma Stays.trans {x y z : Store.Test} (h : Stays x y) (k : Stays y z) : Stays x z := by
  rcases h with rfl | rfl
  · exact k
  · rcases k with rfl | rfl
    · exact .inr rfl
    · exact .inr rfl

theorem Frame.refl (problem last : Int) (m : Memory) : Frame problem last m m :=
  ⟨fun _ _ => rfl, fun _ _ => rfl, fun _ _ => rfl, fun _ test h => ⟨test, h, .inl rfl⟩,
    fun _ _ => rfl, fun _ _ => rfl⟩

theorem Frame.trans (h : Frame problem last a b) (k : Frame problem last b c) :
    Frame problem last a c where
  records other hne := (k.records other hne).trans (h.records other hne)
  tests other hne := (k.tests other hne).trans (h.tests other hne)
  subtasks other hne := (k.subtasks other hne).trans (h.subtasks other hne)
  own i test htest := by
    obtain ⟨now, hnow, hstays⟩ := h.own i test htest
    obtain ⟨later, hlater, hstays'⟩ := k.own i now hnow
    exact ⟨later, hlater, hstays.trans hstays'⟩
  inputs id hid := (k.inputs id hid).trans (h.inputs id hid)
  outputs id hid := (k.outputs id hid).trans (h.outputs id hid)

/-- A call of an import leaves the tests of other problems, and those of its own at most orphans. -/
lemma tests_of_makes (hwf : a.WellFormed) (h : Makes entries problem (last < ·) call) :
    (∀ other ≠ problem, (Memory.handle call a).2.allTests other = a.allTests other) ∧
      ∀ (i : Nat) test, (a.allTests problem)[i]? = some test →
        ∃ now, ((Memory.handle call a).2.allTests problem)[i]? = some now ∧ Stays test now := by
  have hsame : (∀ other ≠ problem, a.allTests other = a.allTests other) ∧
      ∀ (i : Nat) test, (a.allTests problem)[i]? = some test →
        ∃ now, (a.allTests problem)[i]? = some now ∧ Stays test now :=
    ⟨fun _ _ => rfl, fun _ test htest => ⟨test, htest, .inl rfl⟩⟩
  cases call with
  | orphanTests id =>
    obtain rfl : id = problem := h
    refine ⟨fun other hne => Memory.allTests_orphanTests_of_ne a hne, fun i test htest => ?_⟩
    refine ⟨{ test with orphaned := true }, ?_, .inr rfl⟩
    change ((a.orphanTests id).allTests id)[i]? = _
    rw [Memory.allTests_orphanTests, Memory.orphaned, List.getElem?_map, htest]
    rfl
  | createTest test =>
    obtain ⟨rfl, -⟩ := h
    have hadds := Memory.addsTests_createTest hwf test
    refine ⟨fun other hne => ?_, fun i old hold => ⟨old, ?_, .inl rfl⟩⟩
    · have hnone : test.problemId ≠ other := Ne.symm hne
      exact (Memory.allTests_of_adds hadds other).trans (by simp [hnone])
    · have hadded : (Memory.handle (.createTest test) a).2.allTests test.problemId = _ :=
        Memory.allTests_of_adds hadds test.problemId
      rw [hadded, List.getElem?_append_left (List.getElem?_eq_some_iff.mp hold).1, hold]
  | updateProblem id update =>
    simp only [Memory.handle]
    split <;> exact hsame
  | saveInput id source | saveOutput id source =>
    simp only [Memory.handle]
    split <;> exact hsame
  | createSubtask | deleteSubtasks => exact hsame
  | problem | saveProblem | tests | input | output | purgeData | subtasks => exact h.elim

lemma subtasks_of_makes (hwf : a.WellFormed) (h : Makes entries problem (last < ·) call)
    {other : Int} (hne : other ≠ problem) :
    (Memory.handle call a).2.allSubtasks other = a.allSubtasks other := by
  cases call with
  | deleteSubtasks id =>
    obtain rfl : id = problem := h
    exact Memory.allSubtasks_deleteSubtasks_of_ne a hne
  | createSubtask subtask =>
    have hnone : subtask.problemId ≠ other := fun heq => hne (heq ▸ h.1)
    exact (Memory.allSubtasks_of_adds (Memory.addsSubtasks_createSubtask hwf subtask) other).trans
      (by simp [hnone])
  | updateProblem id update =>
    simp only [Memory.handle]
    split <;> rfl
  | saveInput id source | saveOutput id source =>
    simp only [Memory.handle]
    split <;> rfl
  | createTest | orphanTests => rfl
  | problem | saveProblem | tests | input | output | purgeData | subtasks => exact h.elim

/-- What a call of an import touches is its own. -/
theorem frame_of_touches (htouches : Touches call a b) (hwf : a.WellFormed)
    (h : Makes entries problem (last < ·) call) : Frame problem last a b := by
  obtain ⟨hother, hown⟩ := tests_of_makes hwf h
  have htests : ∀ id, b.allTests id = (Memory.handle call a).2.allTests id := fun id => by
    rw [Memory.allTests, htouches.tests, Memory.allTests]
  have hsubtasks : ∀ id, b.allSubtasks id = (Memory.handle call a).2.allSubtasks id := fun id => by
    rw [Memory.allSubtasks, htouches.subtasks, Memory.allSubtasks]
  have hrewrites : ∀ id, call.rewrites = some id → id = problem := by
    intro id hid
    cases call with
    | updateProblem other update => exact Option.some.inj hid ▸ h.1
    | saveProblem => exact h.elim
    | problem | createTest | tests | orphanTests | saveInput | saveOutput | input | output
    | purgeData | createSubtask | subtasks | deleteSubtasks => simp [Call.rewrites] at hid
  have hrefills : ∀ id, call.refills = some id → last < id := by
    intro id hid
    cases call with
    | saveInput test source | saveOutput test source => exact Option.some.inj hid ▸ h.1
    | purgeData => exact h.elim
    | problem | saveProblem | updateProblem | createTest | tests | orphanTests | input | output
    | createSubtask | subtasks | deleteSubtasks => simp [Call.refills] at hid
  refine ⟨fun other hne => htouches.problems other fun heq => hne (hrewrites other heq),
    fun other hne => (htests other).trans (hother other hne),
    fun other hne => (hsubtasks other).trans (subtasks_of_makes hwf h hne), ?_,
    fun id hid => htouches.inputs id fun heq => Int.not_lt.mpr hid (hrefills id heq),
    fun id hid => htouches.outputs id fun heq => Int.not_lt.mpr hid (hrefills id heq)⟩
  rw [htests]
  exact hown

end Frame

/-- An import into a problem leaves alone what is not its own, whichever of its calls fail. -/
theorem frame_of_run {σ : Type} {handle : Handler σ} {memory : σ → Memory}
    (h : Follows handle memory) {s : σ} (hwf : (memory s).WellFormed) (entries : List Entry)
    (problem : Int) : Frame problem (memory s).lastId (memory s)
      (memory (runOn handle (importArchive entries problem) s).2) := by
  have hstep : ∀ (_ : Nat) call t, Makes entries problem ((memory s).lastId < ·) call →
      ((memory t).WellFormed ∧ (memory s).lastId ≤ (memory t).lastId) →
      (∀ value, (handle call t).1 = .ok value → Assigns ((memory s).lastId < ·) call value) ∧
        ((memory (handle call t).2).WellFormed ∧
          (memory s).lastId ≤ (memory (handle call t).2).lastId) ∧
        Frame problem (memory s).lastId (memory t) (memory (handle call t).2) := by
    rintro _ call t hcall ⟨hwf, hlast⟩
    obtain ⟨hle, hnew⟩ := @Follows.newId _ handle memory t h call
    refine ⟨fun value hvalue => ?_, ⟨h.wellFormed hwf call, Int.le_trans hlast hle⟩, ?_⟩
    -- A new test gets an id above all that were there, so data saved for it is not an older test's.
    · cases call with
      | createTest test =>
        exact Int.lt_of_le_of_lt hlast (hnew value (by rw [hvalue]; rfl)).1
      | problem | saveProblem | updateProblem | tests | orphanTests | saveInput | saveOutput | input
      | output | purgeData | createSubtask | subtasks | deleteSubtasks => trivial
    · rcases h call t with ⟨hsame, -⟩ | ⟨htouches, -⟩
      · rw [hsame]
        exact .refl _ _ _
      · exact frame_of_touches htouches hwf hcall
  exact (@Sat.run _ _ handle _ _ _ _
    (fun _ t => (memory t).WellFormed ∧ (memory s).lastId ≤ (memory t).lastId)
    (fun t u => Frame problem (memory s).lastId (memory t) (memory u))
    (fun _ => .refl _ _ _) (fun _ _ _ h k => h.trans k) hstep
    (sat_importArchive entries problem _) 0 s ⟨hwf, Int.le_refl _⟩).2

/-! ### What a store shows -/

/-- From one view of a store to the other nothing changed but what an import into a problem owns. -/
structure Unharmed (fits : Int → Prop) (problem : Int) (before after : View) : Prop where
  records : ∀ other, fits other → other ≠ problem → after.record other = before.record other
  tests : ∀ other, fits other → other ≠ problem → after.tests other = before.tests other
  subtasks : ∀ other, fits other → other ≠ problem → after.subtasks other = before.subtasks other
  /-- The tests that the problem had are where they were. -/
  own : ∃ old now, before.tests problem = some old ∧ after.tests problem = some now ∧
    ∀ (i : Nat) test, old[i]? = some test → ∃ same, now[i]? = some same ∧ Stays test same
  data : ∀ owner old, fits owner → before.tests owner = some old → ∀ test ∈ old,
    after.input test.id = before.input test.id ∧ after.output test.id = before.output test.id

lemma unharmed_of_frame {fits : Int → Prop} {read : Store.Problem → Option Store.Problem}
    {before after : View} {a b : Memory} {problem : Int} (hbefore : before.Shows fits read a)
    (hafter : after.Shows fits read b) (hwf : a.WellFormed) (hproblem : fits problem)
    (h : Frame problem a.lastId a b) : Unharmed fits problem before after where
  records other hfits hne := by
    rw [hafter.record other hfits, hbefore.record other hfits, h.records other hne]
  tests other hfits hne := by
    rw [hafter.tests other hfits, hbefore.tests other hfits, h.tests other hne]
  subtasks other hfits hne := by
    rw [hafter.subtasks other hfits, hbefore.subtasks other hfits, h.subtasks other hne]
  own := ⟨_, _, hbefore.tests problem hproblem, hafter.tests problem hproblem, h.own⟩
  data owner old hfits hold test htest := by
    obtain rfl : a.allTests owner = old :=
      Option.some.inj ((hbefore.tests owner hfits).symm.trans hold)
    have hid := hbefore.ids owner test htest
    have hlast := hwf.id_le_lastId htest
    rw [hafter.input _ hid, hbefore.input _ hid, hafter.output _ hid, hbefore.output _ hid]
    exact ⟨h.inputs _ hlast, h.outputs _ hlast⟩

section Stores

variable {σ : Type}

/-- The ids that a store ever assigned up to the end of an import after other calls. -/
def everAssigned (handle : Handler σ) (start : σ) (history : List Call) (entries : List Entry)
    (problem : Int) : List Int :=
  Handler.assigned handle (history ++ Transfer.calls handle (importArchive entries problem)
    (Handler.after handle history start)) start

/-- After a history of calls an import leaves alone what is not its own, and no id is assigned
twice. -/
def Harmless (fits : Int → Prop) (view : σ → View) (handle : Handler σ) (start : σ)
    (history : List Call) (entries : List Entry) (problem : Int) : Prop :=
  Unharmed fits problem (view (Handler.after handle history start))
      (view (runOn handle (importArchive entries problem) (Handler.after handle history start)).2) ∧
    (everAssigned handle start history entries problem).Nodup

variable {refusals : List Refusal} {history : List Call} {entries : List Entry} {problem : Int}

lemma harmless_in_memory (refusals : List Refusal) (history : List Call) (entries : List Entry)
    (problem : Int) : Harmless (fun _ => True) (fun s => s.store.view)
      (Faulty.handle refusals Memory.handle) ⟨{}, []⟩ history entries problem := by
  have hfollows : Follows (Faulty.handle refusals Memory.handle) Faulty.store :=
    Follows.memory.faulty refusals
  have hwf := @Follows.wellFormed_after _ _ _ ⟨{}, []⟩ hfollows Memory.Reachable.empty.wellFormed
    history
  refine ⟨unharmed_of_frame (Memory.shows_view _) (Memory.shows_view _) hwf trivial
    (frame_of_run hfollows hwf entries problem), ?_⟩
  exact (hfollows.ascending _ _).1.imp fun hlt => Int.ne_of_lt hlt

/-- An import that makes calls on disk makes those that are remembered. -/
lemma matches_run {root : Root} {s : Faulty FileTree} {t : Faulty Memory} (h : Matches root s t)
    (hproblem : int64.contains problem = true) (hpositioned : Positioned entries)
    (hids : ∀ id ∈ Handler.assigned (refusing root refusals)
      (Transfer.calls (refusing root refusals) (importArchive entries problem) s) s,
        id ≤ int64.greatest) :
    Matches root (runOn (refusing root refusals) (importArchive entries problem) s).2
        (runOn (remembering refusals) (importArchive entries problem) t).2 ∧
      Handler.assigned (remembering refusals)
          (Transfer.calls (remembering refusals) (importArchive entries problem) t) t =
        Handler.assigned (refusing root refusals)
          (Transfer.calls (refusing root refusals) (importArchive entries problem) s) s := by
  have hfollows : Follows (remembering refusals) Faulty.store :=
    Store.Disk.follows_remember.faulty refusals
  refine ((sat_importArchive entries problem fun id => int64.contains id = true).lockstep ?_ h
    hids).2
  intro call s t hcall h hnew
  obtain ⟨halike, hnext⟩ := h.handle (hcall.sized hproblem (fun _ hid => hid) hpositioned) hnew
  refine ⟨halike, hnext, fun value hvalue => ?_⟩
  cases call with
  | createTest test =>
    obtain ⟨hlow, hhigh⟩ := (@Follows.newId _ _ _ t hfollows (.createTest test)).2 value
      (by rw [← Store.newId?_congr halike, hvalue]; rfl)
    have hbefore := h.sized.lastId
    have hafter := hnext.sized.lastId
    change int64.contains value = true
    rw [Decimal.Bounds.contains_iff]
    simp only [int64] at hafter ⊢
    omega
  | problem | saveProblem | updateProblem | tests | orphanTests | saveInput | saveOutput | input
  | output | purgeData | createSubtask | subtasks | deleteSubtasks => trivial

lemma harmless_on_disk {root : Root} {tree opened : FileTree} (hblank : Blank root tree)
    (hopen : Store.Disk.runOn (openStore root) tree = (.ok (), opened))
    (hhistory : ∀ call ∈ history, call.Sized) (hproblem : int64.contains problem = true)
    (hpositioned : Positioned entries)
    (hids : ∀ id ∈ everAssigned (refusing root refusals) ⟨opened, []⟩ history entries problem,
      id ≤ int64.greatest) :
    Harmless (int64.contains · = true) (fun s => Store.Disk.view root s.store)
        (refusing root refusals) ⟨opened, []⟩ history entries problem ∧
      Store.Disk.runOn (openStore root)
          (Handler.after (refusing root refusals) history ⟨opened, []⟩).store =
        (.ok (), (Handler.after (refusing root refusals) history ⟨opened, []⟩).store) := by
  rw [everAssigned, Handler.assigned_append] at hids
  obtain ⟨hbefore, hsame⟩ := (Store.Disk.matches_empty hblank hopen).after hhistory
    fun id hid => hids id (List.mem_append_left _ hid)
  obtain ⟨hafter, hsame'⟩ := matches_run hbefore hproblem hpositioned
    fun id hid => hids id (List.mem_append_right _ hid)
  have hfollows : Follows (remembering refusals) Faulty.store :=
    Store.Disk.follows_remember.faulty refusals
  refine ⟨⟨unharmed_of_frame (hbefore.stores.shows_view hbefore.sized)
    (hafter.stores.shows_view hafter.sized) hbefore.wellFormed hproblem
    (frame_of_run hfollows hbefore.wellFormed entries problem), ?_⟩,
    hbefore.stores.tidy.openStore⟩
  rw [everAssigned, Handler.assigned_append, ← hsame, ← hsame', ← Handler.assigned_append]
  exact (hfollows.ascending _ _).1.imp fun hlt => Int.ne_of_lt hlt

/-- Whatever calls were made of a store before and whichever calls fail, an import is harmless in a
store in memory, and in one on disk as long as the numbers fit. Opening the one on disk again before
the import changes nothing. -/
theorem importArchive_harmless (refusals : List Refusal) (history : List Call)
    (entries : List Entry) (problem : Int) :
    Harmless (fun _ => True) (fun s => s.store.view) (Faulty.handle refusals Memory.handle)
        ⟨{}, []⟩ history entries problem ∧
      ∀ (root : Root) (tree opened : FileTree), Blank root tree →
        Store.Disk.runOn (openStore root) tree = (.ok (), opened) →
        (∀ call ∈ history, call.Sized) → int64.contains problem = true → Positioned entries →
        (∀ id ∈ everAssigned (refusing root refusals) ⟨opened, []⟩ history entries problem,
          id ≤ int64.greatest) →
        Harmless (int64.contains · = true) (fun s => Store.Disk.view root s.store)
            (refusing root refusals) ⟨opened, []⟩ history entries problem ∧
          Store.Disk.runOn (openStore root)
              (Handler.after (refusing root refusals) history ⟨opened, []⟩).store =
            (.ok (), (Handler.after (refusing root refusals) history ⟨opened, []⟩).store) :=
  ⟨harmless_in_memory refusals history entries problem,
    fun _ _ _ hblank hopen hhistory hproblem hpositioned hids =>
      harmless_on_disk hblank hopen hhistory hproblem hpositioned hids⟩

/-- Two problems, of which the second one gets a test and loses a subtask. -/
def someHistory : List Call := [
  .saveProblem { id := 1, name := "Sum" }, .saveProblem { id := 2, name := "Product" },
  .createTest { problemId := 2, visibleId := 1, score := 100 }, .saveInput 1 ⟨[50, 32, 51], none⟩,
  .createSubtask { problemId := 2, visibleId := 1, score := 100, tests := [1] },
  .deleteSubtasks 2]

/-- An import into the first problem that stops at the second output. -/
def someRefusals : List Refusal := [⟨"save_test_output", 1⟩]

/-- The import leaves the second problem as it is in a store of either kind. -/
theorem importArchive_harmless_twoTests :
    Harmless (fun _ => True) (fun s => s.store.view) (Faulty.handle someRefusals Memory.handle)
        ⟨{}, []⟩ someHistory twoTests 1 ∧
      Harmless (int64.contains · = true) (fun s => Store.Disk.view newRoot s.store)
        (refusing newRoot someRefusals) ⟨newTree, []⟩ someHistory twoTests 1 := by
  have hids : everAssigned (refusing newRoot someRefusals) ⟨newTree, []⟩ someHistory twoTests 1 =
      [1, 2, 3, 4] := by
    decide +kernel
  obtain ⟨hmemory, hdisk⟩ := importArchive_harmless someRefusals someHistory twoTests 1
  refine ⟨hmemory, (hdisk newRoot {} newTree blank_newRoot openStore_newRoot ?_ (by decide)
    positioned_twoTests ?_).1⟩
  · simp only [someHistory, List.forall_mem_cons]
    exact ⟨⟨by decide, by decide, by decide, by decide⟩,
      ⟨by decide, by decide, by decide, by decide⟩, ⟨rfl, by decide, by decide, by decide⟩,
      (by decide : int64.contains 1 = true), ⟨rfl, by decide, by decide, by decide, by decide⟩,
      (by decide : int64.contains 2 = true), by simp⟩
  · rw [hids]
    decide

end Stores

end Judge.Archive.Import
