import Judge.Proofs.Export.Settings
import Judge.Proofs.Import.Outcome

/-!
An exported problem that is imported again: the tests, their data and their scores are the same, and
so are the subtasks and the settings if there are any subtasks.
-/

namespace Judge.Archive.Export

open Import (Complete Described Grouped Imported Replaced importArchive_succeeds)
open Store (Memory)
open Transfer (runOn)

/-- A problem that can be exported and imported again: its live tests have different numbers that
are not negative and all their data, its test name can stand in the name of an entry and on a line,
its subtasks list live tests only, and its settings last if it has any subtasks. -/
structure Exportable (problem : Store.Problem) (s : Memory) : Prop where
  distinct : (s.liveTests problem.id).Pairwise fun x y => x.visibleId ≠ y.visibleId
  nonneg : ∀ test ∈ s.liveTests problem.id, 0 ≤ test.visibleId
  stored : ∀ test ∈ s.liveTests problem.id, Stored s test
  testName : '/' ∉ (testName problem).toList ∧ '\n' ∉ (testName problem).toList
  subtasks : ∀ subtask ∈ s.subtasksOf problem.id, ∀ id ∈ subtask.tests,
    ∃ test ∈ s.liveTests problem.id, test.id = id
  settings : s.subtasksOf problem.id ≠ [] → Lasting problem

/-- A test and its copy, with their data in two memories. -/
structure CopiedTest (before after : Memory) (test copy : Store.Test) : Prop where
  visibleId : copy.visibleId = test.visibleId
  score : copy.score = test.score
  input : ∃ data, before.inputs.get? test.id = some data ∧ after.inputs.get? copy.id = some data
  output : ∃ data, before.outputs.get? test.id = some data ∧ after.outputs.get? copy.id = some data

/-- A subtask and its copy, which lists the copies of the tests in the same order. -/
structure CopiedSubtask (tests copies : List Store.Test) (subtask copy : Store.Subtask) : Prop where
  score : copy.score = subtask.score
  tests : List.Forall₂ (fun id copyId => ∃ test ∈ tests, ∃ copy ∈ copies,
    test.id = id ∧ copy.id = copyId ∧ copy.visibleId = test.visibleId) subtask.tests copy.tests

/-- The record of a problem with the settings of another one. Points, credits and sizes that have
their usual value are not taken over. -/
def copiedRecord (source record : Store.Problem) : Store.Problem :=
  { record with
    timeLimit := source.timeLimit
    memoryLimit := source.memoryLimit
    consoleInput := source.consoleInput
    testName := testName source
    scoringStrategy := source.scoringStrategy
    defaultPoints := (unlessUsual 0 source.defaultPoints).getD record.defaultPoints
    authorCredits := (unlessUsual "" source.authorCredits).getD record.authorCredits
    sourceCredits := (unlessUsual "" source.sourceCredits).getD record.sourceCredits
    sourceSize := (unlessUsual Store.defaultSourceSize source.sourceSize).getD record.sourceSize }

/-- One problem took over the tests of another one, and its subtasks and settings if it has any
subtasks. -/
structure Copied (source : Store.Problem) (target : Int) (before after : Memory) : Prop extends
    Replaced target before after where
  tests : List.Forall₂ (CopiedTest before after) (before.liveTests source.id)
    (after.liveTests target)
  subtasks : before.subtasksOf source.id ≠ [] →
    List.Forall₂ (CopiedSubtask (before.liveTests source.id) (after.liveTests target))
        (before.subtasksOf source.id) (after.subtasksOf target) ∧
      (after.subtasksOf target).map (·.visibleId) =
        (List.range (before.subtasksOf source.id).length).map fun i : Nat => (i : Int) + 1
  record : before.subtasksOf source.id ≠ [] →
    after.problems.get? target = (before.problems.get? target).map (copiedRecord source)
  unchanged : before.subtasksOf source.id = [] →
    after.subtasksOf target = before.subtasksOf target ∧
      after.problems.get? target = before.problems.get? target

section Copy

variable {problem : Store.Problem} {s after : Memory} {target : Int}

lemma Exportable.numbered (h : Exportable problem s) (hsized : Sized problem s) :
    Numbered (s.liveTests problem.id) where
  ascending := by
    have hle := Memory.pairwise_liveTests s problem.id
    exact hle.imp₂ (fun hle hne => by omega) h.distinct
  nonneg := h.nonneg
  small := hsized.visibleIds
  scores := hsized.scores

lemma settingsOf_of_nil (h : s.subtasksOf problem.id = []) : settingsOf problem s = none := by
  rw [settingsOf, h]
  rfl

/-- The settings that are read from an export of a problem with subtasks. -/
lemma exists_settings (h : Exportable problem s) (hsized : Sized problem s)
    (hne : s.subtasksOf problem.id ≠ []) : ∃ tags p, settingsOf problem s = some p ∧
      p = properties problem (Export.testName problem) (s.liveTests problem.id)
        (s.subtasksOf problem.id) ∧
      (settingsEntry p).settings? = some { p with tags } := by
  obtain ⟨tags, htags⟩ := settings?_settingsEntry
    (portable_properties (h.settings hne) hsized h.testName.2 hne)
  refine ⟨tags, _, ?_, rfl, htags⟩
  rw [settingsOf]
  have hsome : (s.subtasksOf problem.id).isEmpty = false := by
    simpa using hne
  simp only [hsome, Bool.false_eq_true, if_false]

/-- What is exported of such a problem can be imported. -/
theorem importable_exported (h : Exportable problem s) (hsized : Sized problem s) :
    Importable (exported problem s) := by
  apply importable_archiveOf (h.numbered hsized) h.testName.1
  intro p hp
  by_cases hne : s.subtasksOf problem.id = []
  · rw [settingsOf_of_nil hne] at hp
    contradiction
  · obtain ⟨tags, other, hother, heq, hread⟩ := exists_settings h hsized hne
    obtain rfl : other = p := Option.some.inj (hother.symm.trans hp)
    refine ⟨_, hread, ?_⟩
    intro number hnumber
    obtain ⟨table, htable, g, hg, hnumber⟩ := Properties.mem_subtaskedTests.mp hnumber
    rw [heq] at htable
    obtain rfl := Option.some.inj htable
    exact exists_of_mem_groups hg hnumber

/-- Tests that are imported from an export are copies of the exported ones. -/
theorem copiedTests_of_numbered (hnumbered : Numbered (s.liveTests problem.id))
    (hname : '/' ∉ (Export.testName problem).toList)
    (hstored : ∀ test ∈ s.liveTests problem.id, Stored s test) {summary : Summary}
    (himported : Imported (exported problem s) target s after summary) :
    List.Forall₂ (CopiedTest s after) (s.liveTests problem.id) (after.liveTests target) := by
  have hall := himported.tests
  rw [exported, testNumbers_archiveOf hnumbered hname, List.forall₂_map_left_iff] at hall
  refine ((List.forall₂_and_left _ _).mpr ⟨fun test htest => htest, hall⟩).imp ?_
  rintro test copy ⟨htest, hcomplete⟩
  obtain ⟨⟨input, hinput⟩, output, houtput⟩ := hstored test htest
  refine ⟨hcomplete.visibleId, ?_, ⟨input, hinput, ?_⟩, ⟨output, houtput, ?_⟩⟩
  · exact hcomplete.score.trans (score_archiveOf hnumbered hname htest)
  · obtain ⟨entry, honly, hdata⟩ := hcomplete.input
    rw [holders_input hnumbered hname, filter_eq_singleton hnumbered.ascending htest] at honly
    obtain rfl := List.cons.inj honly |>.1
    rw [hdata, inputEntry, hinput, Option.getD_some]
  · obtain ⟨entry, honly, hdata⟩ := hcomplete.output
    rw [holders_output hnumbered hname, filter_eq_singleton hnumbered.ascending htest] at honly
    obtain rfl := List.cons.inj honly |>.1
    rw [hdata, outputEntry, houtput, Option.getD_some]

lemma copiedTests (h : Exportable problem s) (hsized : Sized problem s) {summary : Summary}
    (himported : Imported (exported problem s) target s after summary) :
    List.Forall₂ (CopiedTest s after) (s.liveTests problem.id) (after.liveTests target) :=
  copiedTests_of_numbered (h.numbered hsized) h.testName.1 h.stored himported

lemma copiedSubtasks (h : Exportable problem s)
    (hgrouped : List.Forall₂ (Grouped target (after.liveTests target))
      (groups (s.liveTests problem.id) (s.subtasksOf problem.id)).entries
      (after.subtasksOf target)) :
    List.Forall₂ (CopiedSubtask (s.liveTests problem.id) (after.liveTests target))
      (s.subtasksOf problem.id) (after.subtasksOf target) := by
  have hvalues : List.Forall₂ (fun group copy => copy.score = group.score ∧
      List.Forall₂ (fun number id => ∃ copy ∈ after.liveTests target,
        copy.visibleId = number ∧ copy.id = id) group.tests copy.tests)
      ((s.subtasksOf problem.id).map (groupOf (s.liveTests problem.id)))
      (after.subtasksOf target) := by
    rw [← values_groups, Table.values, List.forall₂_map_left_iff]
    exact hgrouped.imp fun group copy hg => ⟨hg.score, hg.tests⟩
  rw [List.forall₂_map_left_iff] at hvalues
  refine ((List.forall₂_and_left _ _).mpr ⟨fun subtask hsubtask => hsubtask, hvalues⟩).imp ?_
  rintro subtask copy ⟨hsubtask, hscore, hcopies⟩
  refine ⟨hscore, ?_⟩
  have hids := visibleIds_eq (h.subtasks subtask hsubtask)
  refine (forall₂_comp hids hcopies).imp ?_
  rintro id copyId ⟨number, ⟨test, htest, hid, hnumber⟩, copy, hcopy, hcopyNumber, hcopyId⟩
  exact ⟨test, htest, copy, hcopy, hid, hcopyId, hcopyNumber.trans hnumber.symm⟩

/-- Imported groups count from one, whatever the visible ids of the exported subtasks are. -/
lemma visibleIds_of_grouped {tests live : List Store.Test} {subtasks copies : List Store.Subtask}
    (hgrouped : List.Forall₂ (Grouped target live) (groups tests subtasks).entries copies) :
    copies.map (·.visibleId) = (List.range subtasks.length).map fun i : Nat => (i : Int) + 1 := by
  have hkeys : copies.map (·.visibleId) = (groups tests subtasks).keys :=
    map_eq_map_of_forall₂ hgrouped fun _ _ hg => hg.visibleId
  have hsize : (groups tests subtasks).size = subtasks.length := by
    rw [Table.size, entries_groups, List.length_mapIdx]
  rw [hkeys, keys_groups, hsize]

lemma settings_exported (h : Exportable problem s) (hsized : Sized problem s) :
    Content.settings (exported problem s) =
      (settingsOf problem s).bind fun p => (settingsEntry p).settings? :=
  settings_archiveOf (h.numbered hsized) h.testName.1

/-- An export of a problem with subtasks supplies its groups and its settings. -/
lemma content_of_subtasks (h : Exportable problem s) (hsized : Sized problem s)
    (hne : s.subtasksOf problem.id ≠ []) :
    Content.groups (exported problem s) =
        some (groups (s.liveTests problem.id) (s.subtasksOf problem.id)) ∧
      Content.record (exported problem s) = copiedRecord problem := by
  obtain ⟨tags, p, hp, heq, hread⟩ := exists_settings h hsized hne
  have hsettings : Content.settings (exported problem s) = some { p with tags } := by
    rw [settings_exported h hsized, hp, Option.bind_some, hread]
  constructor
  · rw [Content.groups, hsettings, heq]
    rfl
  · funext record
    rw [Content.record, hsettings, heq]
    rfl

/-- An export of a problem without subtasks supplies neither. -/
lemma content_of_nil (h : Exportable problem s) (hsized : Sized problem s)
    (hnil : s.subtasksOf problem.id = []) :
    Content.groups (exported problem s) = none ∧ Content.record (exported problem s) = id := by
  have hsettings : Content.settings (exported problem s) = none := by
    rw [settings_exported h hsized, settingsOf_of_nil hnil, Option.bind_none]
  constructor
  · rw [Content.groups, hsettings, Option.bind_none]
  · funext record
    rw [Content.record, hsettings]
    rfl

/-- An exported problem is imported into every problem that exists, and that problem then has the
same tests with the same scores and data, and the same subtasks and settings if there are subtasks. -/
theorem exportArchive_importArchive (hreachable : s.Reachable) (h : Exportable problem s)
    (hsized : Sized problem s) (htarget : (s.problems.get? target).isSome) :
    ∃ entries summary after, runOn Memory.handle (exportArchive problem) s = (.ok entries, s) ∧
      runOn Memory.handle (importArchive entries target) s = (.ok summary, after) ∧
      Copied problem target s after := by
  obtain ⟨summary, after, hrun, himported⟩ := importArchive_succeeds (importable_exported h hsized)
    (sound_archiveOf _ _ _ _) hreachable.wellFormed htarget
  have hrecord := himported.record
  refine ⟨_, summary, after, exportArchive_run h.distinct h.stored, hrun, ?_⟩
  refine { himported.toReplaced with
    tests := copiedTests h hsized himported, subtasks := ?_, record := ?_, unchanged := ?_ }
  · intro hne
    obtain ⟨-, hgrouped⟩ := himported.grouped _ (content_of_subtasks h hsized hne).1
    exact ⟨copiedSubtasks h hgrouped, visibleIds_of_grouped hgrouped⟩
  · intro hne
    rwa [Import.RecordUpdated, (content_of_subtasks h hsized hne).2] at hrecord
  · intro hnil
    obtain ⟨hgroups, hsame⟩ := content_of_nil h hsized hnil
    refine ⟨himported.ungrouped hgroups, ?_⟩
    rwa [Import.RecordUpdated, hsame, Option.map_id] at hrecord

end Copy

/-- A problem whose test name starts like a number. -/
def sumProblem : Store.Problem :=
  { id := 1, name := "Sum", testName := " 3.sum-1 ", defaultPoints := 5, tags := ["a,b"] }

/-- A store with that problem, which has two tests, a subtask and one that is empty, and with another
problem. -/
def sumStore : Memory := Memory.afterCalls {} [
  .saveProblem sumProblem, .saveProblem { id := 2, name := "Copy" },
  .createTest { problemId := 1, visibleId := 10, score := -5 },
  .saveInput 1 ⟨[49], none⟩, .saveOutput 1 ⟨[50], none⟩,
  .createTest { problemId := 1, visibleId := 2, score := 0 },
  .saveInput 2 ⟨[51], none⟩, .saveOutput 2 ⟨[52], none⟩,
  .createSubtask { problemId := 1, visibleId := 7, score := 40, tests := [1, 2] },
  .createSubtask { problemId := 1, visibleId := 7, score := 60, tests := [] }]

lemma liveTests_sumStore : sumStore.liveTests 1 =
    [{ id := 2, problemId := 1, visibleId := 2, score := 0 },
      { id := 1, problemId := 1, visibleId := 10, score := -5 }] := by
  have hlive : (sumStore.allTests 1).filter (!·.orphaned) =
      [{ id := 1, problemId := 1, visibleId := 10, score := -5 },
        { id := 2, problemId := 1, visibleId := 2, score := 0 }] := by decide +kernel
  rw [Memory.liveTests, hlive]
  simp [List.mergeSort, List.MergeSort.Internal.splitInTwo]

lemma subtasksOf_sumStore : sumStore.subtasksOf 1 =
    [{ id := 3, problemId := 1, visibleId := 7, score := 40, tests := [1, 2] },
      { id := 4, problemId := 1, visibleId := 7, score := 60, tests := [] }] := by
  rw [Memory.subtasksOf, List.mergeSort_of_pairwise]
  · decide +kernel
  · decide +kernel

lemma exportable_sumProblem : Exportable sumProblem sumStore := by
  have hid : sumProblem.id = 1 := rfl
  constructor
  case distinct =>
    rw [hid, liveTests_sumStore]
    decide
  case nonneg =>
    rw [hid, liveTests_sumStore]
    decide
  case stored =>
    rw [hid, liveTests_sumStore]
    intro test htest
    rcases List.mem_cons.mp htest with rfl | htest
    · exact ⟨⟨[51], by decide +kernel⟩, ⟨[52], by decide +kernel⟩⟩
    · obtain rfl := List.mem_singleton.mp htest
      exact ⟨⟨[49], by decide +kernel⟩, ⟨[50], by decide +kernel⟩⟩
  case testName => decide +kernel
  case subtasks =>
    rw [hid, liveTests_sumStore, subtasksOf_sumStore]
    decide
  case settings =>
    intro _
    exact ⟨by decide +kernel, by decide +kernel, by decide, by decide +kernel, by decide, by decide,
      ⟨by decide, by decide⟩, ⟨by decide, by decide⟩, ⟨by decide, by decide⟩⟩

lemma sized_sumProblem : Sized sumProblem sumStore := by
  have hid : sumProblem.id = 1 := rfl
  constructor
  case visibleIds =>
    rw [hid, liveTests_sumStore]
    decide
  case scores =>
    rw [hid, liveTests_sumStore]
    decide
  case subtaskScores =>
    rw [hid, subtasksOf_sumStore]
    decide
  case memoryLimit => decide
  case defaultPoints => decide
  case sourceSize => decide

/-- That problem is exported and imported into the other one. -/
theorem exportArchive_importArchive_sumStore :
    ∃ entries summary after,
      runOn Memory.handle (exportArchive sumProblem) sumStore = (.ok entries, sumStore) ∧
      runOn Memory.handle (importArchive entries 2) sumStore = (.ok summary, after) ∧
      Copied sumProblem 2 sumStore after :=
  exportArchive_importArchive (Memory.Reachable.empty.afterCalls _) exportable_sumProblem
    sized_sumProblem (by decide +kernel)

end Judge.Archive.Export
