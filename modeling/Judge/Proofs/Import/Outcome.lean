import Judge.Proofs.Archive.Settings
import Judge.Proofs.Import.Errors
import Judge.Proofs.Import.Settle

/-!
What an import leaves in a store that keeps a memory. If it succeeds, the problem shows the tests,
the record and the subtasks that the archive describes; if the store fails, it shows the first
tests, and nothing of a later phase unless the earlier ones were finished. A store in memory refuses
only what it cannot read and problems it does not have, so a sound archive that can be imported is
imported into every problem that exists.
-/

namespace Judge.Archive.Import

open Store (Memory MayRefuse)
open Transfer (runOn runOn_bind_ok_iff runOn_bind_error_iff)

/-- The tests of a problem were replaced: the old ones are orphaned and keep their data, and other
problems are as they were. -/
structure Replaced (problem : Int) (before after : Memory) : Prop where
  old : after.allTests problem = before.orphaned problem ++ after.liveTests problem
  fresh : ∀ test ∈ after.liveTests problem, before.lastId < test.id
  ids : (after.liveTests problem).Pairwise fun x y => x.id < y.id
  data : ∀ test ∈ before.tests.values,
    after.inputs.get? test.id = before.inputs.get? test.id ∧
      after.outputs.get? test.id = before.outputs.get? test.id
  otherTests : ∀ other ≠ problem, after.allTests other = before.allTests other
  otherProblems : ∀ other ≠ problem, after.problems.get? other = before.problems.get? other
  otherSubtasks : ∀ other ≠ problem, after.subtasksOf other = before.subtasksOf other

/-- What an import that succeeds did. -/
structure Imported (entries : List Entry) (problem : Int) (before after : Memory)
    (summary : Summary) : Prop extends Replaced problem before after where
  tests : List.Forall₂ (Complete entries problem after) (Content.testNumbers entries)
    (after.liveTests problem)
  record : RecordUpdated entries problem before after
  grouped : ∀ groups, Content.groups entries = some groups →
    groups.keys = ((List.range groups.size).map fun i : Nat => (i : Int) + 1) ∧
      List.Forall₂ (Grouped problem (after.liveTests problem)) groups.entries
        (after.subtasksOf problem)
  ungrouped : Content.groups entries = none → after.subtasksOf problem = before.subtasksOf problem
  summary : summary = summaryOf entries

/-- What an import did that the store stopped after the old tests were orphaned. -/
structure Interrupted (entries : List Entry) (problem : Int) (before after : Memory) : Prop extends
    Replaced problem before after where
  tests : ∃ count ≤ (Content.testNumbers entries).length,
    List.Forall₂ (Described entries problem) ((Content.testNumbers entries).take count)
        (after.liveTests problem) ∧
      List.Forall₂ (Complete entries problem after)
        ((Content.testNumbers entries).take (count - 1)) ((after.liveTests problem).take (count - 1))
  record : after.problems.get? problem = before.problems.get? problem ∨
    List.Forall₂ (Complete entries problem after) (Content.testNumbers entries)
        (after.liveTests problem) ∧
      RecordUpdated entries problem before after
  replaced : after.subtasksOf problem = before.subtasksOf problem ∨
    List.Forall₂ (Complete entries problem after) (Content.testNumbers entries)
        (after.liveTests problem) ∧
      RecordUpdated entries problem before after ∧ ∃ count, SubtasksReplaced entries problem after count

section Chain

variable {entries : List Entry} {problem : Int} {before middle after : Memory}
  {new : List Store.Test}

/-- New tests after the old ones were orphaned, and then at most changes of the record and the
subtasks, replace the tests. -/
theorem replaced_of_adds (hwf : before.WellFormed)
    (hadds : (before.orphanTests problem).AddsTests middle new)
    (hlive : middle.liveTests problem = new)
    (hnew : ∀ test ∈ new, test.problemId = problem) (hkeeps : middle.KeepsTests problem after) :
    Replaced problem before after := by
  have hafter : after.liveTests problem = new := (hkeeps.liveTests problem).trans hlive
  constructor
  case old =>
    have hmine : new.filter (·.problemId == problem) = new :=
      List.filter_eq_self.mpr fun test htest => by simp [hnew test htest]
    rw [hkeeps.allTests, Memory.allTests_of_adds hadds, Memory.allTests_orphanTests, hafter, hmine]
  case fresh =>
    rw [hafter]
    exact fun test htest => (hadds.fresh test htest).1
  case ids =>
    have hasc := middle.tests.ascending
    rw [hadds.tests] at hasc
    rw [hafter]
    have hnewer := (List.pairwise_append.mp hasc).2.1
    exact (List.pairwise_map (f := fun test : Store.Test => (test.id, test))).mp hnewer
  case data =>
    intro test htest
    obtain ⟨e, he, rfl⟩ := List.mem_map.mp htest
    have hid : e.2.id ≤ before.lastId := by
      rw [(hwf.tests e he).1]
      exact (hwf.tests e he).2
    rw [hkeeps.inputs, hkeeps.outputs]
    exact ⟨hadds.inputs _ hid, hadds.outputs _ hid⟩
  case otherTests =>
    intro other hne
    have hnone : new.filter (·.problemId == other) = [] :=
      List.filter_eq_nil_iff.mpr fun test htest => by simp [hnew test htest, Ne.symm hne]
    rw [hkeeps.allTests, Memory.allTests_of_adds hadds, hnone, List.append_nil,
      Memory.allTests_orphanTests_of_ne _ hne]
  case otherProblems =>
    intro other hne
    rw [hkeeps.problems other hne, hadds.problems]
    rfl
  case otherSubtasks =>
    intro other hne
    rw [hkeeps.subtasks other hne, Memory.subtasksOf, hadds.subtasks]
    rfl

/-- Described tests that were added after the old ones were orphaned are the live ones. -/
theorem liveTests_of_described (hadds : (before.orphanTests problem).AddsTests middle new)
    {numbers : List Int} (hasc : numbers.Pairwise (· < ·))
    (hall : List.Forall₂ (Described entries problem) numbers new) :
    middle.liveTests problem = new := by
  apply Memory.liveTests_of_adds hadds (Memory.liveTests_orphanTests _)
  · exact forall_mem_of_forall₂ hall fun _ _ hd => ⟨hd.problemId, hd.live⟩
  · exact pairwise_lt_of_forall₂ (f := id) hall (fun _ _ hd => hd.visibleId) hasc

lemma Complete.of_keepsTests {number : Int} {test : Store.Test}
    (h : Complete entries problem middle number test) (hkeeps : middle.KeepsTests problem after) :
    Complete entries problem after number test := by
  obtain ⟨input, honly, hinput⟩ := h.input
  obtain ⟨output, honly', houtput⟩ := h.output
  refine { h with input := ⟨input, honly, ?_⟩, output := ⟨output, honly', ?_⟩ }
  · rw [hkeeps.inputs, hinput]
  · rw [hkeeps.outputs, houtput]

end Chain

section Run

variable {σ : Type} {handle : Store.Handler σ} {memory : σ → Memory} {entries : List Entry}
  {problem : Int} {s t : σ}

/-- An import whose tests could not all be created was interrupted. -/
lemma interrupted_of_createTests (hm : MayRefuse handle memory) (himportable : Importable entries)
    {before : Memory} (hwf : before.WellFormed) (hs : memory s = before.orphanTests problem)
    {e : Error} (h : runOn handle (createTests entries problem (Content.tests entries)) s =
      (.error e, t)) : Interrupted entries problem before (memory t) := by
  have hwfs : (memory s).WellFormed := by
    rw [hs]
    exact Memory.wellFormed_orphanTests hwf problem
  obtain ⟨new, hadds, hlength, hdescribed, hcomplete⟩ :=
    createTests_error hm (fun number => ready_of_importable himportable) hwfs h
  rw [hs] at hadds
  have hasc := (Content.ascending_testNumbers entries).sublist (List.take_sublist new.length _)
  have hlive := liveTests_of_described hadds hasc hdescribed
  have hreplaced := replaced_of_adds hwf hadds hlive
    (forall_mem_of_forall₂ hdescribed fun _ _ hd => hd.problemId) (.refl _ _)
  refine { hreplaced with tests := ⟨new.length, hlength, ?_⟩, record := .inl ?_, replaced := .inl ?_ }
  · rw [hlive]
    exact ⟨hdescribed, hcomplete⟩
  · rw [hadds.problems]
    rfl
  · rw [Memory.subtasksOf, hadds.subtasks]
    rfl

/-- Asking a store for an import of a prepared archive has one of three outcomes: nothing happened,
or the import was interrupted, or all of it was done. -/
theorem store_run (hm : MayRefuse handle memory) (hwf : (memory s).WellFormed) {scan : Scan}
    (hprepare : prepare entries = .ok scan) {result : Except Error Summary}
    (h : runOn handle (store entries problem scan) s = (result, t)) :
    ((∃ cause, result = .error (.store .orphanTests cause)) ∧ memory t = memory s) ∨
      ((∃ e, result = .error e) ∧ Interrupted entries problem (memory s) (memory t)) ∨
      ∃ summary, result = .ok summary ∧ Imported entries problem (memory s) (memory t) summary := by
  have himportable := importable_of_prepare hprepare
  obtain ⟨htests, hsettings⟩ := tests_of_prepare hprepare
  rw [store_eq, htests, hsettings, Transfer.runOn_bind] at h
  rcases horphan : runOn handle (Transfer.request .orphanTests (.orphanTests problem)) s with
    ⟨e | _, u⟩
  · rw [horphan] at h
    obtain ⟨rfl, rfl⟩ : .error e = result ∧ u = t := by simpa using h
    obtain ⟨hsame, cause, rfl⟩ := memory_of_request_error hm horphan
    exact .inl ⟨⟨cause, rfl⟩, hsame⟩
  rw [horphan] at h
  have hu : memory u = (memory s).orphanTests problem :=
    (Prod.mk.inj (handle_of_request_ok hm horphan)).2.symm
  have hwfu : (memory u).WellFormed := by
    rw [hu]
    exact Memory.wellFormed_orphanTests hwf problem
  simp only [Transfer.runOn_bind] at h
  rcases hcreate : runOn handle (createTests entries problem (Content.tests entries)) u with
    ⟨e | created, v⟩
  · rw [hcreate] at h
    obtain ⟨rfl, rfl⟩ : .error e = result ∧ v = t := by simpa using h
    exact .inr (.inl ⟨⟨e, rfl⟩, interrupted_of_createTests hm himportable hwf hu hcreate⟩)
  -- From here on all tests are complete, and the last phase keeps them so.
  rw [hcreate] at h
  obtain ⟨new, hadds, hcomplete, rfl⟩ :=
    createTests_ok hm (fun number => ready_of_importable himportable) hwfu hcreate
  have hwfv := hadds.wellFormed hwfu
  rw [hu] at hadds
  have hlive := liveTests_of_described hadds (Content.ascending_testNumbers entries)
    (hcomplete.imp fun _ _ hc => hc.toDescribed)
  obtain ⟨hsettled, hfinished⟩ := settle_run hm himportable hwfv hlive hcomplete h
  have hreplaced := replaced_of_adds hwf hadds hlive
    (forall_mem_of_forall₂ hcomplete fun _ _ hc => hc.problemId) hsettled.toKeepsTests
  have hall : List.Forall₂ (Complete entries problem (memory t)) (Content.testNumbers entries)
      ((memory t).liveTests problem) := by
    rw [hsettled.liveTests, hlive]
    exact hcomplete.imp fun _ _ hc => hc.of_keepsTests hsettled.toKeepsTests
  have hproblems : (memory v).problems = (memory s).problems := hadds.problems
  have hsubtasks : (memory v).subtasksOf problem = (memory s).subtasksOf problem := by
    rw [Memory.subtasksOf, hadds.subtasks]
    rfl
  have hrecord : RecordUpdated entries problem (memory v) (memory t) →
      RecordUpdated entries problem (memory s) (memory t) := by
    rw [RecordUpdated, RecordUpdated, hproblems]
    exact id
  cases result with
  | error e =>
    refine .inr (.inl ⟨⟨e, rfl⟩, ?_⟩)
    refine { hreplaced with tests := ⟨_, Nat.le_refl _, ?_⟩, record := ?_, replaced := ?_ }
    · rw [List.take_length]
      exact ⟨hall.imp fun _ _ hc => hc.toDescribed, List.forall₂_take _ hall⟩
    · rw [← hproblems]
      exact hsettled.record.imp_right fun hr => ⟨hall, hrecord hr⟩
    · rw [← hsubtasks]
      exact hsettled.replaced.imp_right fun hr => ⟨hall, hrecord hr.1, hr.2⟩
  | ok summary =>
    obtain ⟨hdone, rfl⟩ := hfinished summary rfl
    refine .inr (.inr ⟨_, rfl, { hreplaced with
      tests := hall, record := hrecord hdone.record, summary := rfl, grouped := ?_, ungrouped := ?_ }⟩)
    · exact fun groups hgroups => ⟨Content.keys_of_groups hgroups, hdone.grouped groups hgroups⟩
    · exact fun hnone => (hdone.ungrouped hnone).trans hsubtasks

lemma importArchive_eq_store {scan : Scan} (hprepare : prepare entries = .ok scan) :
    importArchive entries problem = store entries problem scan := by
  rw [importArchive, hprepare]
  rfl

/-- After an import that succeeds the problem shows what the archive describes: its tests with their
scores and data, its settings, and its groups. -/
theorem importArchive_ok {before after : Memory} {summary : Summary} (hreachable : before.Reachable)
    (h : runOn Memory.handle (importArchive entries problem) before = (.ok summary, after)) :
    Imported entries problem before after summary := by
  cases hprepare : prepare entries with
  | error cause =>
    rw [importArchive, hprepare] at h
    simp [Transfer.runOn_bind] at h
  | ok scan =>
    rw [importArchive_eq_store hprepare] at h
    rcases store_run .memory hreachable.wellFormed hprepare h with ⟨⟨_, h⟩, -⟩ | ⟨⟨_, h⟩, -⟩ | h
    · contradiction
    · contradiction
    · obtain ⟨_, hsummary, himported⟩ := h
      obtain rfl := Except.ok.inj hsummary
      exact himported

/-- A store with one problem, which has no tests. -/
def oneProblem : Memory := (Memory.handle (.saveProblem { id := 1, name := "Sum" }) {}).2

lemma reachable_oneProblem : oneProblem.Reachable := .call _ .empty

/-- An archive with two tests, one of them with an explicit score, that form one group. -/
def twoTests : List Entry := [
  { name := "2-sum.in", data := [51] }, { name := "2-sum.ok", data := [52] },
  { name := "1-sum.in", data := [49] }, { name := "1-sum.sol", data := [50] },
  { name := "tests.txt", data := Utf8.encode "2 70".toList },
  { name := "grader.properties", data := Utf8.encode "groups=2;1\nweights=40\ntime=2".toList }]

/-- Two tests and their group are imported into the problem. -/
theorem importArchive_ok_twoTests :
    Imported twoTests 1 oneProblem (runOn Memory.handle (importArchive twoTests 1) oneProblem).2
      ⟨2, 1, true⟩ := by
  have h : (runOn Memory.handle (importArchive twoTests 1) oneProblem).1 = .ok ⟨2, 1, true⟩ := by
    decide +kernel
  exact importArchive_ok reachable_oneProblem (Prod.ext h rfl)

/-- When the store fails, either nothing was changed, or the import was interrupted. -/
theorem importArchive_interrupted (hm : MayRefuse handle memory) (hreachable : (memory s).Reachable)
    {purpose : Purpose} {cause : Store.Error}
    (h : runOn handle (importArchive entries problem) s = (.error (.store purpose cause), t)) :
    purpose = .orphanTests ∧ memory t = memory s ∨
      Interrupted entries problem (memory s) (memory t) := by
  cases hprepare : prepare entries with
  | error e =>
    rw [importArchive, hprepare] at h
    obtain rfl : e = .store purpose cause := by
      simpa [Transfer.runOn_bind] using congrArg Prod.fst h
    exact absurd (isStructural_of_prepare hprepare) (by simp [Error.IsStructural])
  | ok scan =>
    rw [importArchive_eq_store hprepare] at h
    rcases store_run hm hreachable.wellFormed hprepare h with ⟨⟨_, h⟩, hsame⟩ | ⟨-, h⟩ | h
    · simp only [Except.error.injEq, Error.store.injEq] at h
      exact .inl ⟨h.1, hsame⟩
    · exact .inr h
    · obtain ⟨_, h, -⟩ := h
      contradiction

/-- A store that refuses to save the second output leaves both tests, the second one without it. -/
theorem importArchive_interrupted_twoTests :
    Interrupted twoTests 1 oneProblem
      (runOn (Store.Faulty.handle [⟨"save_test_output", 1⟩] Memory.handle) (importArchive twoTests 1)
        ⟨oneProblem, []⟩).2.store := by
  have h : (runOn (Store.Faulty.handle [⟨"save_test_output", 1⟩] Memory.handle)
      (importArchive twoTests 1) ⟨oneProblem, []⟩).1 =
        .error (.store .createOutput (.injected "save_test_output")) := by
    decide +kernel
  have hm : MayRefuse (Store.Faulty.handle [⟨"save_test_output", 1⟩] Memory.handle)
    Store.Faulty.store := MayRefuse.memory.faulty _
  rcases importArchive_interrupted (s := ⟨oneProblem, []⟩) hm reachable_oneProblem
    (Prod.ext h rfl) with ⟨hpurpose, -⟩ | hinterrupted
  · contradiction
  · exact hinterrupted

end Run

/-! ### Imports that succeed -/

/-- A program that comes to its end in a memory. -/
def Succeeds {α : Type} (transfer : Transfer α) (s : Memory) : Prop :=
  ∃ value t, runOn Memory.handle transfer s = (.ok value, t)

lemma succeeds_pure {α : Type} (value : α) (s : Memory) : Succeeds (pure value) s := ⟨value, s, rfl⟩

/-- A composed program comes to its end if its parts do, wherever the first one leads. -/
lemma Succeeds.bind {α β : Type} {first : Transfer α} {next : α → Transfer β} {s : Memory}
    (h : Succeeds first s)
    (hnext : ∀ value t, runOn Memory.handle first s = (.ok value, t) → Succeeds (next value) t) :
    Succeeds (first >>= next) s := by
  obtain ⟨value, t, hfirst⟩ := h
  obtain ⟨result, u, hresult⟩ := hnext value t hfirst
  exact ⟨result, u, Transfer.runOn_bind_ok_iff.mpr ⟨value, t, hfirst, hresult⟩⟩

lemma succeeds_request {purpose : Purpose} {call : Store.Call} {s : Memory} (value : call.Value)
    (h : (Memory.handle call s).1 = .ok value) : Succeeds (Transfer.request purpose call) s := by
  exact ⟨value, _, Transfer.runOn_request_ok_iff.mpr (Prod.ext h rfl)⟩

section Success

variable {entries : List Entry} {problem number : Int} {s : Memory}

/-- The data of a test in a sound archive is read to its end. -/
lemma readAll_of_holder (hsound : Sound entries) {kind : EntryKind} {entry : Entry} {source : Source}
    (honly : Content.holders entries kind = [entry]) (ho : entry.opened = .ok source) :
    source.readAll = .ok entry.data := by
  have hmem : entry ∈ Content.holders entries kind := honly ▸ List.mem_singleton_self entry
  have hdamage := hsound entry (Content.mem_holders.mp hmem).1
  rw [Entry.opened, hdamage] at ho
  obtain rfl := Except.ok.inj ho
  rfl

lemma storeTest_succeeds (hsound : Sound entries) {input output : Source}
    (hdata : Data entries number input output) (score : Int) (s : Memory) :
    Succeeds (storeTest problem number score input output) s := by
  obtain ⟨entry, honly, ho⟩ := hdata.inputHolder
  obtain ⟨entry', honly', ho'⟩ := hdata.outputHolder
  have hin := readAll_of_holder hsound honly ho
  have hout := readAll_of_holder hsound honly' ho'
  refine Succeeds.bind (succeeds_request _ rfl) fun id t _ => ?_
  refine Succeeds.bind (succeeds_request () ?_) fun _ u _ => ?_
  · simp only [Memory.handle, hin]
  refine Succeeds.bind (succeeds_request () ?_) fun _ v _ => succeeds_pure _ _
  simp only [Memory.handle, hout]

lemma createTests_succeeds (hsound : Sound entries) {numbers : List Int}
    (hready : ∀ number ∈ numbers, ∃ input output, Ready entries number input output) (s : Memory) :
    Succeeds (createTests entries problem
      (numbers.map fun number => (number, Content.files entries number))) s := by
  induction numbers generalizing s with
  | nil => exact succeeds_pure [] s
  | cons number numbers ih =>
    obtain ⟨input, output, hnumber⟩ := hready number (by simp)
    rw [List.map_cons, createTests_cons hnumber]
    refine Succeeds.bind (storeTest_succeeds hsound hnumber.toData _ s) fun id t _ => ?_
    refine Succeeds.bind (ih (fun n hn => hready n (by simp [hn])) t) fun created u _ => ?_
    exact succeeds_pure _ u

lemma createSubtasks_succeeds {created : List (Int × Int)} {groups : List (Int × Group)}
    (hgroups : ∀ g ∈ groups, ∀ test ∈ g.2.tests, test ∈ created.map (·.1)) (s : Memory) :
    Succeeds (createSubtasks created problem groups) s := by
  induction groups generalizing s with
  | nil => exact succeeds_pure () s
  | cons g groups ih =>
    obtain ⟨position, group⟩ := g
    obtain ⟨ids, hids, -⟩ := resolveTests_ok (hgroups (position, group) (by simp))
    rw [createSubtasks_cons hids]
    refine Succeeds.bind (succeeds_request _ rfl) fun id t _ => ?_
    exact ih (fun g hg => hgroups g (by simp [hg])) t

lemma updateProblem_succeeds (hproblem : (s.problems.get? problem).isSome)
    (update : Store.ProblemUpdate) : Succeeds (updateProblem problem update) s := by
  obtain ⟨record, hrecord⟩ := Option.isSome_iff_exists.mp hproblem
  rw [updateProblem]
  split
  · exact succeeds_pure false s
  · refine Succeeds.bind (succeeds_request () ?_) fun _ t _ => succeeds_pure true t
    simp only [Memory.handle, hrecord]

/-- The last phase succeeds if the problem exists and its groups list created tests only. -/
lemma settle_succeeds (hproblem : (s.problems.get? problem).isSome) {created : List (Int × Int)}
    {settings : Option Properties}
    (hgroups : ∀ properties, settings = some properties →
      ∀ number ∈ properties.subtaskedTests, number ∈ created.map (·.1)) :
    Succeeds (settle created problem settings) s := by
  cases settings with
  | none => exact succeeds_pure _ s
  | some properties =>
    refine Succeeds.bind (updateProblem_succeeds hproblem _) fun updated t _ => ?_
    refine Succeeds.bind ?_ fun subtasks u _ => succeeds_pure _ u
    cases hsubtasks : properties.subtasks with
    | none => exact succeeds_pure 0 t
    | some groups =>
      refine Succeeds.bind (succeeds_request _ rfl) fun _ u _ => ?_
      refine Succeeds.bind (createSubtasks_succeeds ?_ u) fun _ v _ => succeeds_pure _ v
      intro g hg test htest
      exact hgroups properties rfl test
        (Properties.mem_subtaskedTests.mpr ⟨groups, hsubtasks, g, hg, htest⟩)

/-- A sound archive that can be imported is imported into every problem that exists. -/
theorem importArchive_succeeds (himportable : Importable entries) (hsound : Sound entries)
    (hwf : s.WellFormed) (hproblem : (s.problems.get? problem).isSome) :
    ∃ summary t, runOn Memory.handle (importArchive entries problem) s = (.ok summary, t) ∧
      Imported entries problem s t summary := by
  obtain ⟨scan, hprepare, htests, hsettings⟩ := prepare_of_importable himportable
  have hready := fun number => @ready_of_importable entries himportable number
  have hsucceeds : Succeeds (store entries problem scan) s := by
    rw [store_eq, htests, hsettings]
    refine Succeeds.bind (succeeds_request _ rfl) fun _ t horphan => ?_
    have ht : t = s.orphanTests problem := (congrArg Prod.snd horphan).symm
    have hwft : t.WellFormed := ht ▸ Memory.wellFormed_orphanTests hwf problem
    refine Succeeds.bind (createTests_succeeds hsound hready t) fun created u hcreate => ?_
    obtain ⟨new, hadds, hall, rfl⟩ := createTests_ok .memory hready hwft hcreate
    apply settle_succeeds
    · have hproblems : u.problems = t.problems := hadds.problems
      rw [hproblems, ht]
      exact hproblem
    · intro properties hproperties number hnumber
      have hmem := himportable.groups properties hproperties number hnumber
      obtain ⟨test, htest, hcomplete⟩ := exists_of_mem_of_forall₂ hall hmem
      rw [List.map_map]
      exact List.mem_map.mpr ⟨test, htest, hcomplete.visibleId⟩
  rw [importArchive_eq_store hprepare]
  obtain ⟨summary, t, hrun⟩ := hsucceeds
  refine ⟨summary, t, hrun, ?_⟩
  rcases store_run .memory hwf hprepare hrun with ⟨⟨_, h⟩, -⟩ | ⟨⟨_, h⟩, -⟩ | h
  · contradiction
  · contradiction
  · obtain ⟨_, hsummary, himported⟩ := h
    obtain rfl := Except.ok.inj hsummary
    exact himported

end Success

end Judge.Archive.Import
