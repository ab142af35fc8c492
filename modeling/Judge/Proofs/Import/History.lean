import Judge.Proofs.Import.Outcome

/-!
Histories of imports: every import replaces the tests of its problem, but only one whose archive has
groups replaces the subtasks. So the subtasks of a problem always list tests of the problem, which
are the live ones as long as no archive without groups came after the groups.
-/

namespace Judge.Archive.Import

open Store (Memory)
open Transfer (runOn)

/-- A problem that exists and has neither tests nor subtasks. -/
structure Fresh (problem : Int) (s : Memory) : Prop where
  record : (s.problems.get? problem).isSome
  tests : s.allTests problem = []
  subtasks : s.subtasksOf problem = []

/-- Imports into problems that succeed one after the other; the list begins with the last one. -/
inductive Imports : List (Int × List Entry) → Memory → Memory → Prop where
  | none (s : Memory) : Imports [] s s
  | next {history : List (Int × List Entry)} {s t u : Memory} {problem : Int}
      {entries : List Entry} {summary : Summary} : Imports history s t →
      runOn Memory.handle (importArchive entries problem) t = (.ok summary, u) →
      Imports ((problem, entries) :: history) s u

/-- The last archive that was imported into a problem has groups. -/
def Regrouped (problem : Int) (history : List (Int × List Entry)) : Prop :=
  ∃ entries groups, history.lookup problem = some entries ∧ Content.groups entries = some groups

/-- The subtasks of a problem list ids of its tests, which are those of live tests if `live` holds
and those of orphaned tests otherwise. -/
def ListTests (problem : Int) (live : Prop) (s : Memory) : Prop :=
  ∀ subtask ∈ s.subtasksOf problem, ∀ id ∈ subtask.tests,
    (∃ test ∈ s.allTests problem, test.id = id) ∧
      ((∃ test ∈ s.liveTests problem, test.id = id) ↔ live)

section Step

variable {entries : List Entry} {problem other : Int} {before after : Memory} {summary : Summary}
  {live : Prop}

/-- An import into a well-formed memory that succeeds shows what the archive describes. -/
lemma imported_of_ok (hwf : before.WellFormed)
    (h : runOn Memory.handle (importArchive entries problem) before = (.ok summary, after)) :
    Imported entries problem before after summary := by
  cases hprepare : prepare entries with
  | error cause =>
    rw [importArchive, hprepare] at h
    simp [Transfer.runOn_bind] at h
  | ok scan =>
    rw [importArchive_eq_store hprepare] at h
    rcases store_run .memory hwf hprepare h with ⟨⟨_, h⟩, -⟩ | ⟨⟨_, h⟩, -⟩ | ⟨_, h, himported⟩
    · contradiction
    · contradiction
    · obtain rfl := Except.ok.inj h
      exact himported

/-- An import into one problem leaves what the subtasks of another one list. -/
lemma ListTests.of_other (h : ListTests other live before) (hreplaced : Replaced problem before after)
    (hne : other ≠ problem) : ListTests other live after := by
  rwa [ListTests, hreplaced.otherSubtasks other hne, Memory.liveTests,
    hreplaced.otherTests other hne]

/-- New groups list the tests that came with them. -/
lemma listTests_of_grouped (himported : Imported entries problem before after summary)
    {groups : Table Group} (hgroups : Content.groups entries = some groups) :
    ListTests problem True after := by
  intro subtask hsubtask id hid
  have hgrouped := (himported.grouped groups hgroups).2
  have hlisted := forall_mem_of_forall₂ hgrouped
    (P := fun subtask => ∀ id ∈ subtask.tests, ∃ test ∈ after.liveTests problem, test.id = id)
    fun _ _ hg => forall_mem_of_forall₂ hg.tests fun _ _ ⟨test, htest, _, hid⟩ => ⟨test, htest, hid⟩
  obtain ⟨test, htest, rfl⟩ := hlisted subtask hsubtask id hid
  exact ⟨⟨test, Memory.mem_allTests_of_mem_liveTests htest, rfl⟩,
    iff_of_true ⟨test, htest, rfl⟩ trivial⟩

/-- Subtasks that stay list tests that an import has orphaned. -/
lemma ListTests.of_ungrouped (h : ListTests problem live before) (hwf : before.WellFormed)
    (himported : Imported entries problem before after summary)
    (hnone : Content.groups entries = none) : ListTests problem False after := by
  intro subtask hsubtask id hid
  rw [himported.ungrouped hnone] at hsubtask
  obtain ⟨⟨test, htest, rfl⟩, -⟩ := h subtask hsubtask id hid
  constructor
  · refine ⟨{ test with orphaned := true }, ?_, rfl⟩
    rw [himported.old]
    exact List.mem_append_left _ (List.mem_map.mpr ⟨test, htest, rfl⟩)
  · -- The live tests are new, so none of them has the id of an older one.
    refine iff_of_false ?_ id
    rintro ⟨new, hnew, hsame⟩
    have hfresh := himported.fresh new hnew
    have hold := hwf.id_le_lastId htest
    omega

end Step

variable {history : List (Int × List Entry)} {problem : Int} {s t : Memory}

lemma Imports.reachable (h : Imports history s t) (hs : s.Reachable) : t.Reachable := by
  induction h with
  | none s => exact hs
  | @next _ _ t u target entries _ _ hrun ih =>
    have hu : u = (runOn Memory.handle (importArchive entries target) t).2 := by rw [hrun]
    exact hu ▸ (ih hs).run (importArchive entries target).run

lemma regrouped_cons_self {entries : List Entry} :
    Regrouped problem ((problem, entries) :: history) ↔
      ∃ groups, Content.groups entries = some groups := by
  simp [Regrouped]

lemma regrouped_cons_of_ne {entries : List Entry} {other : Int} (hne : problem ≠ other) :
    Regrouped problem ((other, entries) :: history) ↔ Regrouped problem history := by
  have hlookup : ((other, entries) :: history).lookup problem = history.lookup problem := by
    rw [List.lookup_cons, beq_eq_false_iff_ne.mpr hne]
  rw [Regrouped, hlookup, Regrouped]

/-- Along a history the subtasks list tests of the problem, live ones exactly after groups. -/
theorem Imports.listTests (h : Imports history s t) (hs : s.Reachable) (hfresh : Fresh problem s) :
    ListTests problem (Regrouped problem history) t := by
  induction h with
  | none s =>
    intro subtask hsubtask
    rw [hfresh.subtasks] at hsubtask
    simp at hsubtask
  | @next history s t u target entries summary himports hrun ih =>
    have hwf := (himports.reachable hs).wellFormed
    have himported := imported_of_ok hwf hrun
    by_cases htarget : problem = target
    · subst htarget
      rw [regrouped_cons_self]
      cases hgroups : Content.groups entries with
      | none => simpa using (ih hs hfresh).of_ungrouped hwf himported hgroups
      | some groups => simpa using listTests_of_grouped himported hgroups
    · rw [regrouped_cons_of_ne htarget]
      exact (ih hs hfresh).of_other himported.toReplaced htarget

/-- However often archives are imported, from a fresh problem on, every test that a subtask of the
problem lists is a test of the problem, and it is live exactly if the last archive has groups. -/
theorem exists_of_mem_subtask (hreachable : s.Reachable) (hfresh : Fresh problem s)
    (h : Imports history s t) {subtask : Store.Subtask} (hsubtask : subtask ∈ t.subtasksOf problem)
    {id : Int} (hid : id ∈ subtask.tests) :
    (∃ test ∈ t.allTests problem, test.id = id) ∧
      ((∃ test ∈ t.liveTests problem, test.id = id) ↔ Regrouped problem history) :=
  h.listTests hreachable hfresh subtask hsubtask id hid

lemma fresh_oneProblem : Fresh 1 oneProblem := by
  refine ⟨by decide +kernel, by decide +kernel, ?_⟩
  rw [Memory.subtasksOf, show oneProblem.subtasks = .empty from rfl]
  exact List.mergeSort_nil

/-- An archive with one test and no settings. -/
def plainTest : List Entry :=
  [{ name := "1-sum.in", data := [49] }, { name := "1-sum.ok", data := [50] }]

/-- The store with the problem after both archives were imported, the one without groups last. -/
def regraded : Memory :=
  (runOn Memory.handle (importArchive plainTest 1)
    (runOn Memory.handle (importArchive twoTests 1) oneProblem).2).2

lemma imports_regraded : Imports [(1, plainTest), (1, twoTests)] oneProblem regraded := by
  have hfirst : (runOn Memory.handle (importArchive twoTests 1) oneProblem).1 = .ok ⟨2, 1, true⟩ := by
    decide +kernel
  have hsecond : (runOn Memory.handle (importArchive plainTest 1)
      (runOn Memory.handle (importArchive twoTests 1) oneProblem).2).1 = .ok ⟨1, 0, false⟩ := by
    decide +kernel
  exact .next (.next (.none _) (Prod.ext hfirst rfl)) (Prod.ext hsecond rfl)

/-- The subtask of the first archive. -/
def staleSubtask : Store.Subtask :=
  { id := 3, problemId := 1, visibleId := 1, score := 40, tests := [2, 1] }

lemma mem_subtasksOf_regraded : staleSubtask ∈ regraded.subtasksOf 1 :=
  List.mem_mergeSort.mpr (by decide +kernel)

/-- Its test with the id 1 is still a test of the problem, but not a live one. -/
theorem exists_of_mem_staleSubtask :
    (∃ test ∈ regraded.allTests 1, test.id = 1) ∧
      ((∃ test ∈ regraded.liveTests 1, test.id = 1) ↔
        Regrouped 1 [(1, plainTest), (1, twoTests)]) :=
  exists_of_mem_subtask reachable_oneProblem fresh_oneProblem imports_regraded
    mem_subtasksOf_regraded (by decide)

/-- An import without groups leaves subtasks that list tests which are no longer live. -/
theorem exists_subtask_dangling : ∃ history s t, s.Reachable ∧ Fresh 1 s ∧ Imports history s t ∧
    ∃ subtask ∈ t.subtasksOf 1, ∃ id ∈ subtask.tests, ∀ test ∈ t.liveTests 1, test.id ≠ id := by
  refine ⟨_, oneProblem, regraded, reachable_oneProblem, fresh_oneProblem, imports_regraded,
    staleSubtask, mem_subtasksOf_regraded, 1, by decide, fun test htest hid => ?_⟩
  have hlisted := imports_regraded.listTests reachable_oneProblem fresh_oneProblem staleSubtask
    mem_subtasksOf_regraded 1 (by decide)
  have hregrouped := hlisted.2.mp ⟨test, htest, hid⟩
  rw [regrouped_cons_self] at hregrouped
  obtain ⟨groups, hgroups⟩ := hregrouped
  have hnone : Content.groups plainTest = none := by decide +kernel
  rw [hnone] at hgroups
  contradiction

end Judge.Archive.Import
