import Judge.Proofs.Archive.Received
import Judge.Proofs.Export.RoundTrip
import Judge.Proofs.Import.History

/-!
Exporting what was imported: the settings of an import can be written and read again, and its tests
are found again in the export as long as their numbers are not negative and no slash is in the test
name. A number with a minus sign, or a name with a slash, is not read back from the name of an
entry, and then the export cannot be imported.
-/

namespace Judge.Archive.Export

open Import (Complete Fresh Grouped Imported imported_of_ok importArchive_succeeds)
open Store (Memory)
open Transfer (runOn)

/-- A problem whose settings can be read after they were written. -/
structure Writable (problem : Store.Problem) : Prop where
  timeLimit : IsLimit problem.timeLimit
  memoryLimit : Decimal.int64.contains problem.memoryLimit = true ∧ 0 ≤ problem.memoryLimit
  defaultPoints : Decimal.int32.contains problem.defaultPoints = true ∧ 0 ≤ problem.defaultPoints
  sourceSize : Decimal.int64.contains problem.sourceSize = true ∧ 0 ≤ problem.sourceSize
  authorCredits : IsLine problem.authorCredits.toList
  sourceCredits : IsLine problem.sourceCredits.toList
  testName : '\n' ∉ problem.testName.toList
  scoringStrategy : IsLine problem.scoringStrategy.toList

/-- What holds of a usual value and of every value that replaces it holds of the outcome. -/
lemma getD_of_forall {α : Type} {P : α → Prop} {value : Option α} {usual : α}
    (hvalue : ∀ a, value = some a → P a) (husual : P usual) : P (value.getD usual) := by
  cases value with
  | none => exact husual
  | some a => exact hvalue a rfl

section Settings

variable {entries : List Entry} {problem : Store.Problem} {s : Memory}

/-- An import keeps a problem writable. -/
theorem Writable.record (h : Writable problem) : Writable (Content.record entries problem) := by
  rw [Content.record]
  split
  · exact h
  · next p hp =>
    have hp := Content.received_settings hp
    constructor
    case timeLimit => exact getD_of_forall hp.timeLimit h.timeLimit
    case memoryLimit => exact getD_of_forall hp.memoryLimit h.memoryLimit
    case defaultPoints => exact getD_of_forall hp.defaultPoints h.defaultPoints
    case sourceSize => exact getD_of_forall hp.sourceSize h.sourceSize
    case authorCredits => exact getD_of_forall hp.author h.authorCredits
    case sourceCredits => exact getD_of_forall hp.source h.sourceCredits
    case testName =>
      exact getD_of_forall (P := fun text : String => '\n' ∉ text.toList)
        (fun text htext => (hp.testName text htext).1) h.testName
    case scoringStrategy => exact getD_of_forall hp.scoringStrategy h.scoringStrategy

lemma isLine_testName (h : Writable problem) : IsLine (testName problem).toList := by
  refine ⟨fun hmem => ?_, trim_testName problem⟩
  rcases testName_cases problem with hname | hname
  · rw [hname] at hmem
    exact h.testName (Text.mem_of_mem_trim hmem)
  · rw [hname] at hmem
    exact absurd (Slug.not_isBlank_of_mem_ofText hmem) (by decide)

/-- The settings of a writable problem with subtasks are as reading gives them. -/
theorem received_properties (h : Writable problem) (hsized : Sized problem s)
    (hne : s.subtasksOf problem.id ≠ []) :
    (properties problem (testName problem) (s.liveTests problem.id)
      (s.subtasksOf problem.id)).Received where
  groups _ htable := groups_properties hsized hne htable
  timeLimit := Draft.forall_some h.timeLimit
  memoryLimit := Draft.forall_some h.memoryLimit
  defaultPoints points hpoints := by
    rw [eq_of_unlessUsual hpoints]
    exact h.defaultPoints
  sourceSize size hsize := by
    rw [eq_of_unlessUsual hsize]
    exact h.sourceSize
  author text htext := by
    rw [eq_of_unlessUsual htext]
    exact h.authorCredits
  source text htext := by
    rw [eq_of_unlessUsual htext]
    exact h.sourceCredits
  testName := Draft.forall_some (isLine_testName h)
  scoringStrategy := Draft.forall_some h.scoringStrategy

/-- The export of a writable problem can be imported. -/
theorem importable_of_writable (h : Writable problem) (hsized : Sized problem s)
    (hnumbered : Numbered (s.liveTests problem.id)) (hname : '/' ∉ (testName problem).toList) :
    Importable (exported problem s) := by
  apply importable_archiveOf hnumbered hname
  intro p hp
  by_cases hnil : s.subtasksOf problem.id = []
  · rw [settingsOf_of_nil hnil] at hp
    contradiction
  · rw [settingsOf, if_neg (by simpa using hnil)] at hp
    obtain rfl := Option.some.inj hp
    obtain ⟨read, hread, hgroups⟩ := (received_properties h hsized hnil).exists_ofText
    refine ⟨read, ?_, ?_⟩
    · rw [settingsEntry, Entry.settings?, Utf8.decode?_encode, Option.bind_some, hread]
      rfl
    · intro number hnumber
      obtain ⟨table, htable, g, hg, hnumber⟩ := Properties.mem_subtaskedTests.mp hnumber
      obtain rfl := Option.some.inj (hgroups.symm.trans htable)
      exact exists_of_mem_groups hg hnumber

end Settings

section Imported

variable {entries : List Entry} {problem : Store.Problem} {s t : Memory} {summary : Summary}

/-- The numbers of an imported problem fit their types. -/
lemma sized_of_imported (h : Writable problem) (hfresh : Fresh problem.id s)
    (himported : Imported entries problem.id s t summary) : Sized problem t where
  visibleIds := by
    refine forall_mem_of_forall₂ (P := fun test : Store.Test => _)
      ((List.forall₂_and_left _ _).mpr ⟨fun number hnumber => hnumber, himported.tests⟩) ?_
    rintro number test ⟨hnumber, hcomplete⟩
    exact hcomplete.visibleId ▸ Content.contains_of_mem_testNumbers hnumber
  scores := by
    refine forall_mem_of_forall₂ himported.tests fun number test hcomplete => ?_
    exact hcomplete.score ▸ Content.contains_score entries number
  subtaskScores := by
    cases hgroups : Content.groups entries with
    | none =>
      rw [himported.ungrouped hgroups, hfresh.subtasks]
      simp
    | some groups =>
      obtain ⟨p, hp, hsubtasks⟩ := Option.bind_eq_some_iff.mp hgroups
      have hscores := ((Content.received_settings hp).groups groups hsubtasks).2.2
      refine forall_mem_of_forall₂ ((List.forall₂_and_left _ _).mpr
        ⟨fun group hgroup => hgroup, (himported.grouped groups hgroups).2⟩) ?_
      rintro group subtask ⟨hgroup, hg⟩
      exact hg.score ▸ (hscores group.2 (List.mem_map_of_mem hgroup)).1
  memoryLimit := h.memoryLimit.1
  defaultPoints := h.defaultPoints.1
  sourceSize := h.sourceSize.1

lemma numbered_of_imported (hsized : Sized problem t)
    (himported : Imported entries problem.id s t summary)
    (hnonneg : ∀ test ∈ t.liveTests problem.id, 0 ≤ test.visibleId) :
    Numbered (t.liveTests problem.id) where
  ascending := pairwise_lt_of_forall₂ (f := id) himported.tests (fun _ _ hc => hc.visibleId)
    (Content.ascending_testNumbers entries)
  nonneg := hnonneg
  small := hsized.visibleIds
  scores := hsized.scores

lemma stored_of_imported (himported : Imported entries problem.id s t summary) :
    ∀ test ∈ t.liveTests problem.id, Stored t test := by
  refine forall_mem_of_forall₂ himported.tests fun number test hcomplete => ?_
  obtain ⟨input, -, hinput⟩ := hcomplete.input
  obtain ⟨output, -, houtput⟩ := hcomplete.output
  exact ⟨⟨_, hinput⟩, ⟨_, houtput⟩⟩

end Imported

section Reimport

variable {entries : List Entry} {id target : Int} {record : Store.Problem} {s t : Memory}
  {summary : Summary}

/-- What was imported into a fresh problem is exported and imported into another one, with the same
tests, scores and data, if no number is negative and no slash is in the test name. -/
theorem importArchive_exportArchive (hreachable : s.Reachable) (hfresh : Fresh id s)
    (hwritable : ∀ old, s.problems.get? id = some old → Writable old)
    (himport : runOn Memory.handle (importArchive entries id) s = (.ok summary, t))
    (hrecord : t.problems.get? id = some record)
    (hnonneg : ∀ test ∈ t.liveTests id, 0 ≤ test.visibleId)
    (hname : '/' ∉ (testName record).toList) (htarget : (t.problems.get? target).isSome) :
    ∃ copy again after, runOn Memory.handle (exportArchive record) t = (.ok copy, t) ∧
      runOn Memory.handle (importArchive copy target) t = (.ok again, after) ∧
      List.Forall₂ (CopiedTest t after) (t.liveTests id) (after.liveTests target) := by
  have himported := imported_of_ok hreachable.wellFormed himport
  have ht : t.Reachable := by
    have hrun := hreachable.run (importArchive entries id).run
    rwa [show (importArchive entries id).run.run Memory.handle s = _ from himport] at hrun
  obtain rfl := ht.id_of_get? hrecord
  obtain ⟨old, hold, rfl⟩ := Option.map_eq_some_iff.mp (himported.record.symm.trans hrecord)
  have hwrite : Writable (Content.record entries old) := (hwritable old hold).record
  have hsized := sized_of_imported hwrite hfresh himported
  have hnumbered := numbered_of_imported hsized himported hnonneg
  have hstored := stored_of_imported himported
  have hexport := exportArchive_run (hnumbered.ascending.imp Int.ne_of_lt) hstored
  obtain ⟨again, after, hrun, hagain⟩ := importArchive_succeeds
    (importable_of_writable hwrite hsized hnumbered hname) (sound_archiveOf _ _ _ _)
    ht.wellFormed htarget
  exact ⟨_, again, after, hexport, hrun, copiedTests_of_numbered hnumbered hname hstored hagain⟩

end Reimport

/-- A store with two new problems. -/
def twoProblems : Memory := Memory.afterCalls {} [
  .saveProblem { id := 1, name := "Sum" }, .saveProblem { id := 2, name := "Copy" }]

lemma reachable_twoProblems : twoProblems.Reachable := Memory.Reachable.empty.afterCalls _

lemma fresh_twoProblems {id : Int} (h : (twoProblems.problems.get? id).isSome) :
    Fresh id twoProblems where
  record := h
  tests := rfl
  subtasks := List.mergeSort_nil

lemma isLimit_ofInt_one : IsLimit (.ofInt 1) where
  finite := by decide +kernel
  nonneg := by decide +kernel
  representable := Decimal.Binary64.representable_ofInt 1

lemma writable_new (id : Int) (name : String) : Writable { id, name } := by
  constructor
  case timeLimit =>
    dsimp only
    exact isLimit_ofInt_one
  all_goals
    dsimp only [IsLine]
    decide

/-- The store after two tests and their group were imported into its first problem. -/
def twoImported : Memory := (runOn Memory.handle (importArchive Import.twoTests 1) twoProblems).2

/-- The problem then. -/
def sumRecord : Store.Problem :=
  { id := 1, name := "Sum", timeLimit := Decimal.Binary64.ofInt 2 }

lemma import_twoProblems :
    runOn Memory.handle (importArchive Import.twoTests 1) twoProblems =
      (.ok ⟨2, 1, true⟩, twoImported) := by
  have h : (runOn Memory.handle (importArchive Import.twoTests 1) twoProblems).1 =
      .ok ⟨2, 1, true⟩ := by decide +kernel
  exact Prod.ext h rfl

/-- The two tests are exported and imported into the second problem. -/
theorem importArchive_exportArchive_twoTests :
    ∃ copy again after,
      runOn Memory.handle (exportArchive sumRecord) twoImported = (.ok copy, twoImported) ∧
      runOn Memory.handle (importArchive copy 2) twoImported = (.ok again, after) ∧
      List.Forall₂ (CopiedTest twoImported after) (twoImported.liveTests 1)
        (after.liveTests 2) := by
  have hnonneg : ∀ test ∈ twoImported.liveTests 1, 0 ≤ test.visibleId := by
    intro test htest
    have hall : ∀ test ∈ twoImported.allTests 1, 0 ≤ test.visibleId := by decide +kernel
    exact hall test (Store.Memory.mem_allTests_of_mem_liveTests htest)
  have hold : ∀ old, twoProblems.problems.get? 1 = some old → Writable old := by
    intro old hget
    have hsum : twoProblems.problems.get? 1 = some { id := 1, name := "Sum" } := by decide +kernel
    obtain rfl := Option.some.inj (hsum.symm.trans hget)
    exact writable_new 1 "Sum"
  exact importArchive_exportArchive reachable_twoProblems (fresh_twoProblems (by decide +kernel))
    hold import_twoProblems (by decide +kernel) hnonneg (by decide +kernel) (by decide +kernel)

/-- An archive with one test, whose number has a minus sign. -/
def negativeTest : List Entry :=
  [{ name := "a.-3.in", data := [49] }, { name := "a.-3.out", data := [50] }]

/-- The store after that test was imported. -/
def negativeImported : Memory := (runOn Memory.handle (importArchive negativeTest 1) twoProblems).2

lemma liveTests_negativeImported : negativeImported.liveTests 1 =
    [{ id := 1, problemId := 1, visibleId := -3, score := 100 }] := by
  have hlive : (negativeImported.allTests 1).filter (!·.orphaned) =
      [{ id := 1, problemId := 1, visibleId := -3, score := 100 }] := by decide +kernel
  rw [Memory.liveTests, hlive, List.mergeSort_singleton]

lemma subtasksOf_negativeImported : negativeImported.subtasksOf 1 = [] := by
  have hnone : negativeImported.subtasks.values.filter (·.problemId == 1) = [] := by decide +kernel
  rw [Memory.subtasksOf, hnone, List.mergeSort_nil]

/-- Two fresh problems and an archive that is imported into one of them, while the export of that
problem is missing the data of its test when it is imported into the other one. -/
theorem exists_export_not_importable : ∃ s entries summary t record copy,
    s.Reachable ∧ Fresh 1 s ∧ Fresh 2 s ∧
      runOn Memory.handle (importArchive entries 1) s = (.ok summary, t) ∧
      t.problems.get? 1 = some record ∧
      runOn Memory.handle (exportArchive record) t = (.ok copy, t) ∧
      (runOn Memory.handle (importArchive copy 2) t).1 = .error (.missingFile (-3)) := by
  let record : Store.Problem := { id := 1, name := "Sum" }
  have himport : (runOn Memory.handle (importArchive negativeTest 1) twoProblems).1 =
      .ok ⟨1, 0, false⟩ := by decide +kernel
  have hexported : exported record negativeImported =
      [{ name := "-3-sum.in", data := [49] }, { name := "-3-sum.ok", data := [50] },
        { name := "tests.txt", data := Utf8.encode "-3 100\n".toList }] := by
    rw [exported, settingsOf, show record.id = 1 from rfl, liveTests_negativeImported,
      subtasksOf_negativeImported]
    decide +kernel
  have hexport : runOn Memory.handle (exportArchive record) negativeImported =
      (.ok (exported record negativeImported), negativeImported) := by
    apply exportArchive_run
    · rw [show record.id = 1 from rfl, liveTests_negativeImported]
      exact List.pairwise_singleton _ _
    · rw [show record.id = 1 from rfl, liveTests_negativeImported]
      intro test htest
      obtain rfl := List.mem_singleton.mp htest
      exact ⟨⟨[49], by decide +kernel⟩, ⟨[50], by decide +kernel⟩⟩
  refine ⟨twoProblems, negativeTest, _, negativeImported, record, _, reachable_twoProblems,
    fresh_twoProblems (by decide +kernel), fresh_twoProblems (by decide +kernel),
    Prod.ext himport rfl, by decide +kernel, hexport, ?_⟩
  rw [hexported]
  decide +kernel

end Judge.Archive.Export
