import Judge.Proofs.Import.History
import Judge.Proofs.Import.Rows
import Judge.Proofs.Import.Serial
import Judge.Proofs.Import.Twins

/-!
Imports under locks that share one store. Whatever the store is, what is seen of imports into one
problem is seen of one after the other. In a memory and on disk they leave the tests of the problem
that they leave when each of them runs alone, while others import into other problems.
-/

namespace Judge.Archive.Imports

open Decimal (int64)
open Host (FileTree)
open Import (oneProblem plainTest reachable_oneProblem twoTests)
open Store (Handler Memory Parts Root Row View)
open Store.Disk (Blank Stores newRoot newTree blank_newRoot openStore openStore_newRoot remember
  stores_empty)
open Store.Memory (Faithful faithful_handle faithful_remember)

section Memories

variable {δ : Type} {look : Option Bytes → δ} {handle : Handler Memory} {start : Memory}
  {events : List Event} {problem : Int}

/-- The tests of a problem as they are seen by imports. -/
lemma exists_sight (look : Option Bytes → δ) (hf : Faithful handle) (problem : Int) :
    ∃ sight : Sight (Memory.parts look hf) (fun _ _ => True) problem (List (Row δ)),
      ∀ m, sight.see m = m.rows look problem := by
  choose after hafter using fun entries => Import.achieves_importArchive look hf entries problem
  refine ⟨{
    see := fun m => m.rows look problem
    after := after
    same := Memory.rows_of_same
    achieves := fun owner entries m _ hm => ?_ }, fun _ => rfl⟩
  by_cases howner : owner = problem
  · subst howner
    exact (hafter entries m hm).mono fun _ t hrows _ => hrows
  · obtain ⟨_, hachieves⟩ := Import.achieves_importArchive look hf entries owner
    exact (hachieves m hm).mono fun _ t _ heq => absurd heq howner

lemma within_true (event : Event) : event.Within fun _ _ => True := by
  cases event <;> trivial

/-- When the imports into a problem ended, its tests show what they show when each of the imports ran
alone. -/
lemma liveTests_shared (hf : Faithful handle) (hstart : Memory.Clear look start)
    (hended : (run handle { store := start } events).Ended problem) :
    ((shared handle start events).liveTests problem).map ((shared handle start events).row look) =
      ((inTurn handle start events).liveTests problem).map
        ((inTurn handle start events).row look) := by
  obtain ⟨sight, hsee⟩ := exists_sight look hf problem
  have hrows := see_run sight hstart (fun event _ => within_true event) hended
  rw [hsee, hsee] at hrows
  rw [Memory.map_liveTests, Memory.map_liveTests, hrows]

/-- While nothing is seen of a problem, its tests stay as they are. -/
lemma liveTests_of_unseen (hf : Faithful handle) (hstart : start.WellFormed) {before : List Event}
    (hnone : ∀ deed ∈ deeds handle (run handle { store := start } before) events,
      deed.problem ≠ problem) :
    (shared handle start (before ++ events)).liveTests problem =
      (shared handle start before).liveTests problem := by
  -- No data is looked at here, so nothing has to be known of the data there is.
  have hclear : Memory.Clear (fun _ => ()) start :=
    { hstart with inputs := fun _ _ => rfl, outputs := fun _ _ => rfl }
  obtain ⟨sight, -⟩ := exists_sight (fun _ => ()) hf problem
  have hempty : Tracks sight _ ({ store := start } : Imports Memory) := .empty hclear
  have hbefore := hempty.run before fun e _ => within_true e
  have hsame := hbefore.same_run (fun e _ => within_true e) problem hnone
  rw [shared, run, List.foldl_append, ← run, ← run, Memory.liveTests, hsame.tests]
  rfl

end Memories

/-- How imports into a problem share a store of any kind. -/
structure TakesTurns {σ : Type} (handle : Handler σ) (start : σ) (events : List Event)
    (problem : Int) : Prop where
  /-- What is seen of one import is seen before anything of the next one. -/
  turns : ((deeds handle { store := start } events).filter (·.problem == problem)).Pairwise
    (·.ticket ≤ ·.ticket)
  /-- Imports into one problem leave of the whole store what they leave one after the other. -/
  alone : (∀ event ∈ events, event.Within fun owner _ => owner = problem) →
    (run handle { store := start } events).Ended problem →
      shared handle start events = inTurn handle start events

/-- What imports leave of the tests of a problem in a store that starts with what a memory holds. -/
structure LeavesTests {σ : Type} (handle : Handler σ) (view : σ → View) (start : σ) (m : Memory)
    (events : List Event) (problem : Int) : Prop where
  shown : ((view (shared handle start events)).live problem).isSome
  /-- The live tests are those that the last import into the problem left. -/
  last : ∀ before after, events = before ++ after →
    (∀ deed ∈ deeds handle (run handle { store := start } before) after, deed.problem ≠ problem) →
      (view (shared handle start events)).live problem =
        (view (shared handle start before)).live problem
  /-- They are listed as they are after the same imports ran one after the other. -/
  listed : (run handle { store := start } events).Ended problem →
    ((view (shared handle start events)).live problem).map
        (List.map fun test => (test.visibleId, test.score)) =
      ((view (inTurn handle start events)).live problem).map
        (List.map fun test => (test.visibleId, test.score))
  /-- They have the same data, too, if there is none yet under the ids of tests to come. -/
  data : (run handle { store := start } events).Ended problem →
    (∀ id, m.lastId < id → m.inputs.get? id = none ∧ m.outputs.get? id = none) →
      (view (shared handle start events)).rows problem =
        (view (inTurn handle start events)).rows problem

/-- Imports in a store go the same way as in a memory, and the store shows what the memory holds. -/
structure Mirrors {σ : Type} (handle : Handler σ) (view : σ → View) (start : σ)
    (handle' : Handler Memory) (m : Memory) (events : List Event) (problem : Int) : Prop where
  shared : ∀ before after, events = before ++ after → ∃ fits read, fits problem ∧
    (view (shared handle start before)).Shows fits read (shared handle' m before)
  inTurn : ∃ fits read, fits problem ∧
    (view (inTurn handle start events)).Shows fits read (inTurn handle' m events)
  deeds : ∀ before after, events = before ++ after →
    deeds handle (run handle { store := start } before) after =
      deeds handle' (run handle' { store := m } before) after
  ended : (run handle { store := start } events).Ended problem →
    (run handle' { store := m } events).Ended problem

lemma Mirrors.leavesTests {σ : Type} {handle : Handler σ} {view : σ → View} {start : σ}
    {handle' : Handler Memory} {m : Memory} {events : List Event} {problem : Int}
    (h : Mirrors handle view start handle' m events problem) (hf : Faithful handle')
    (hm : m.WellFormed) : LeavesTests handle view start m events problem := by
  obtain ⟨fits, read, hfits, hshows⟩ := h.shared events [] (List.append_nil events).symm
  obtain ⟨fits', read', hfits', hshows'⟩ := h.inTurn
  constructor
  case shown => rw [hshows.live hfits, Option.isSome_some]
  case last =>
    intro before after hevents hnone
    obtain ⟨fitsBefore, readBefore, hfitsBefore, hbefore⟩ := h.shared before after hevents
    rw [h.deeds before after hevents] at hnone
    have hsame := liveTests_of_unseen hf hm hnone
    rw [hshows.live hfits, hbefore.live hfitsBefore, ← hsame, ← hevents]
  case listed =>
    intro hended
    have hclear : Memory.Clear (fun _ => ()) m :=
      { hm with inputs := fun _ _ => rfl, outputs := fun _ _ => rfl }
    have hrows := congrArg (List.map fun r => (r.number, r.score))
      (liveTests_shared hf hclear (h.ended hended))
    rw [List.map_map, List.map_map] at hrows
    rw [hshows.live hfits, hshows'.live hfits', Option.map_some, Option.map_some]
    exact congrArg some hrows
  case data =>
    intro hended hdata
    have hclear : Memory.Clear id m :=
      { hm with
        inputs := fun key hkey => (hdata key hkey).1
        outputs := fun key hkey => (hdata key hkey).2 }
    rw [hshows.rows hfits, hshows'.rows hfits', liveTests_shared hf hclear (h.ended hended)]

lemma mirrors_memory (m : Memory) (events : List Event) (problem : Int) :
    Mirrors Memory.handle Memory.view m Memory.handle m events problem where
  shared _ _ _ := ⟨_, _, trivial, Memory.shows_view _⟩
  inTurn := ⟨_, _, trivial, Memory.shows_view _⟩
  deeds _ _ _ := rfl
  ended := id

/-- The numbers fit in what a store on disk is asked, and so do the ids that are assigned, both when the
imports share the store and when they run one after the other. -/
structure Roomy (m : Memory) (events : List Event) (problem : Int) : Prop where
  problem : int64.contains problem = true
  asked : ∀ event ∈ events, event.Within FitsDisk
  assigned : (shared remember m events).lastId ≤ int64.greatest
  assignedInTurn : (inTurn remember m events).lastId ≤ int64.greatest

lemma mirrors_disk {root : Root} {tree : FileTree} {m : Memory} {events : List Event} {problem : Int}
    (h : Reflects root tree m) (hroom : Roomy m events problem) :
    Mirrors (Store.Disk.handle root) (Store.Disk.view root) tree remember m events problem := by
  have hstart : Twins root { store := tree } { store := m } := .start h
  have hsplit : ∀ before after, events = before ++ after →
      Twins root (run (Store.Disk.handle root) { store := tree } before)
          (run remember { store := m } before) ∧
        deeds (Store.Disk.handle root) (run (Store.Disk.handle root) { store := tree } before) after =
          deeds remember (run remember { store := m } before) after := by
    rintro before after rfl
    have hid := hroom.assigned
    rw [Imports.shared, run, List.foldl_append, ← run, ← run] at hid
    obtain ⟨hbefore, -⟩ := hstart.run (fun e he => hroom.asked e (by simp [he]))
      (Int.le_trans (Twins.lastId_run_le _ after) hid)
    exact ⟨hbefore, (hbefore.run (fun e he => hroom.asked e (by simp [he])) hid).2⟩
  obtain ⟨hrun, hdeeds⟩ := hstart.run hroom.asked hroom.assigned
  constructor
  case shared =>
    intro before after hevents
    have hreflects := (hsplit before after hevents).1.reflects
    exact ⟨_, _, hroom.problem, hreflects.stores.shows_view hreflects.sized⟩
  case inTurn =>
    have horder : order (Store.Disk.handle root) { store := tree } events =
        order remember { store := m } events := by
      rw [order, hdeeds, order]
    have hfits := @within_order _ remember { store := m } events FitsDisk (.empty m)
      (fun _ _ hget => by simp at hget) hroom.asked
    have hreflects := reflects_serially h hfits hroom.assignedInTurn
    rw [Imports.inTurn, horder]
    exact ⟨_, _, hroom.problem, hreflects.stores.shows_view hreflects.sized⟩
  case deeds => exact fun before after hevents => (hsplit before after hevents).2
  case ended => exact hrun.ended

/-- Imports under locks are serial for each problem, however their calls interleave and whenever they
are dropped. -/
theorem serial_run (events : List Event) (problem : Int) :
    (∀ {σ : Type} (handle : Handler σ) (start : σ), TakesTurns handle start events problem) ∧
    (∀ m : Memory, m.WellFormed →
      LeavesTests Memory.handle Memory.view m m events problem) ∧
    ∀ root tree m, Reflects root tree m → Roomy m events problem →
      LeavesTests (Store.Disk.handle root) (Store.Disk.view root) tree m events problem := by
  refine ⟨fun handle start => ⟨pairwise_deeds (.empty start) problem events, ?_⟩,
    fun m hm => (mirrors_memory m events problem).leavesTests faithful_handle hm,
    fun root tree m h hroom => (mirrors_disk h hroom).leavesTests faithful_remember h.wellFormed⟩
  exact fun hevents hended => see_run (wholeSight handle problem) trivial hevents hended

/-- Two imports into one problem and one into another, of which the first is dropped while it runs. -/
def interleaved : List Event :=
  [.start 1 twoTests, .work 0, .start 2 plainTest, .start 1 plainTest, .abandon 0] ++
    (List.replicate 12 [.work 0, .work 1, .poll 2, .work 2]).flatten ++ List.replicate 9 (.work 2)

lemma fitsDisk_interleaved : ∀ event ∈ interleaved, event.Within FitsDisk := by
  have hplain : Import.Positioned plainTest := by
    have hnone : Content.groups plainTest = none := by decide +kernel
    intro groups hgroups
    simp [hnone] at hgroups
  intro event hevent
  cases event with
  | start problem entries =>
    have hstart : problem = 1 ∧ entries = twoTests ∨ problem = 2 ∧ entries = plainTest ∨
        problem = 1 ∧ entries = plainTest := by
      simpa [interleaved] using hevent
    rcases hstart with ⟨rfl, rfl⟩ | ⟨rfl, rfl⟩ | ⟨rfl, rfl⟩
    · exact ⟨by decide, Import.positioned_twoTests⟩
    · exact ⟨by decide, hplain⟩
    · exact ⟨by decide, hplain⟩
  | poll | work | abandon => trivial

/-- The second import into the problem leaves its test, as it does after the first one. -/
theorem serial_run_interleaved :
    ((run Memory.handle { store := oneProblem } interleaved).Ended 1 ∧
      order Memory.handle { store := oneProblem } interleaved =
        [(1, twoTests), (2, plainTest), (1, plainTest)] ∧
      (Memory.view (shared Memory.handle oneProblem interleaved)).rows 1 =
        (Memory.view (inTurn Memory.handle oneProblem interleaved)).rows 1) ∧
      LeavesTests (Store.Disk.handle newRoot) (Store.Disk.view newRoot) newTree {} interleaved 1 := by
  have hended : (run Memory.handle { store := oneProblem } interleaved).Ended 1 := by
    have hall : (run Memory.handle { store := oneProblem } interleaved).jobs.values.all
        (·.stage.isOver) = true := by decide +kernel
    exact fun ticket job hget _ => List.all_eq_true.mp hall job (Table.mem_values hget)
  have horder : order Memory.handle { store := oneProblem } interleaved =
      [(1, twoTests), (2, plainTest), (1, plainTest)] := by
    decide +kernel
  have hdata : ∀ id, oneProblem.lastId < id →
      oneProblem.inputs.get? id = none ∧ oneProblem.outputs.get? id = none :=
    fun id _ => ⟨rfl, rfl⟩
  have hroom : Roomy {} interleaved 1 :=
    ⟨by decide, fitsDisk_interleaved, by decide +kernel, by decide +kernel⟩
  have hstart : Reflects newRoot newTree {} :=
    ⟨stores_empty blank_newRoot openStore_newRoot, Store.Disk.kept_empty.wellFormed,
      Store.Disk.kept_empty.sized⟩
  obtain ⟨-, hmemory, hdisk⟩ := serial_run interleaved 1
  exact ⟨⟨hended, horder, (hmemory oneProblem reachable_oneProblem.wellFormed).data hended hdata⟩,
    hdisk newRoot newTree {} hstart hroom⟩

end Judge.Archive.Imports
