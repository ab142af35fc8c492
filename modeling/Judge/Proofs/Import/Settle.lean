import Judge.Proofs.Import.Run
import Judge.Proofs.Basic

/-!
The last phase of an import, after all tests are there: the record of the problem is changed first,
and only then its subtasks are replaced.
-/

namespace Judge.Archive.Import

open Store (Memory MayRefuse)
open Transfer (runOn)

/-- The phases of an import that come after its tests. -/
def settle (created : List (Int × Int)) (problem : Int) : Option Properties → Transfer Summary
  | none => return { tests := created.length }
  | some properties => do
    let problemUpdated ← updateProblem problem properties.toUpdate
    let subtasks ← replaceSubtasks created problem properties.subtasks
    return { tests := created.length, subtasks, problemUpdated }

theorem store_eq (entries : List Entry) (problem : Int) (scan : Scan) :
    store entries problem scan = (do
      Transfer.request .orphanTests (.orphanTests problem)
      let created ← createTests entries problem scan.tests.entries
      settle created problem scan.properties) := by
  rw [store]
  cases scan.properties <;> rfl

/-- What an import that succeeds tells. -/
def summaryOf (entries : List Entry) : Summary where
  tests := (Content.testNumbers entries).length
  subtasks := ((Content.groups entries).map Table.size).getD 0
  problemUpdated := (Content.settings entries).any fun properties => !properties.toUpdate.isEmpty

/-- The record of a problem was changed as the settings of an archive say. -/
def RecordUpdated (entries : List Entry) (problem : Int) (before after : Memory) : Prop :=
  after.problems.get? problem = (before.problems.get? problem).map (Content.record entries)

/-- The subtasks of a problem were replaced by those of the first groups of an archive. -/
def SubtasksReplaced (entries : List Entry) (problem : Int) (after : Memory) (count : Nat) : Prop :=
  ∃ groups, Content.groups entries = some groups ∧ count ≤ groups.size ∧
    List.Forall₂ (Grouped problem (after.liveTests problem)) (groups.entries.take count)
      (after.subtasksOf problem)

/-- What the last phase of an import does, however far it comes. -/
structure Settled (entries : List Entry) (problem : Int) (before after : Memory) : Prop extends
    before.KeepsTests problem after where
  record : after.problems.get? problem = before.problems.get? problem ∨
    RecordUpdated entries problem before after
  replaced : after.subtasksOf problem = before.subtasksOf problem ∨
    RecordUpdated entries problem before after ∧ ∃ count, SubtasksReplaced entries problem after count

/-- What it does when it comes to its end. -/
structure Finished (entries : List Entry) (problem : Int) (before after : Memory) : Prop where
  record : RecordUpdated entries problem before after
  grouped : ∀ groups, Content.groups entries = some groups →
    List.Forall₂ (Grouped problem (after.liveTests problem)) groups.entries
      (after.subtasksOf problem)
  ungrouped : Content.groups entries = none → after.subtasksOf problem = before.subtasksOf problem

section Run

variable {σ : Type} {handle : Store.Handler σ} {memory : σ → Memory} {entries : List Entry}
  {problem : Int} {s t : σ}

/-- Subtasks that replace those of a problem are the ones that it has then. -/
lemma subtasksReplaced_of_adds {groups : Table Group} (hgroups : Content.groups entries = some groups)
    {a b : Memory} {new : List Store.Subtask} (hadds : (a.deleteSubtasks problem).AddsSubtasks b new)
    (hlength : new.length ≤ groups.size)
    (hall : List.Forall₂ (Grouped problem (a.liveTests problem)) (groups.entries.take new.length)
      new) :
    a.KeepsTests problem b ∧ b.subtasksOf problem = new ∧
      SubtasksReplaced entries problem b new.length := by
  have hmine : ∀ subtask ∈ new, subtask.problemId = problem :=
    forall_mem_of_forall₂ hall fun _ _ hg => hg.problemId
  have hsorted : new.Pairwise fun x y => x.visibleId < y.visibleId :=
    pairwise_lt_of_forall₂ hall (fun _ _ hg => hg.visibleId)
      (groups.ascending.sublist (List.take_sublist _ _))
  have hkeeps : a.KeepsTests problem b := Memory.keepsTests_of_replaced hadds hmine
  have hnew : b.subtasksOf problem = new :=
    Memory.subtasksOf_of_adds hadds (Memory.subtasksOf_deleteSubtasks _) hmine hsorted
  refine ⟨hkeeps, hnew, groups, hgroups, hlength, ?_⟩
  rwa [hnew, hkeeps.liveTests]

/-- Replacing the subtasks keeps everything else, and gives the first groups or nothing. -/
lemma replaceSubtasks_keeps (hm : MayRefuse handle memory) (hs : (memory s).WellFormed)
    {live : List Store.Test} (hlive : (memory s).liveTests problem = live) {groups : Table Group}
    (hgroups : Content.groups entries = some groups)
    (hknown : ∀ g ∈ groups.entries, ∀ number ∈ g.2.tests, ∃ test ∈ live, test.visibleId = number)
    {result : Except Error Nat}
    (h : runOn handle (replaceSubtasks (live.map fun test => (test.visibleId, test.id)) problem
      (some groups)) s = (result, t)) :
    (memory s).KeepsTests problem (memory t) ∧ (memory t).problems = (memory s).problems ∧
      ((memory t).subtasksOf problem = (memory s).subtasksOf problem ∨
        ∃ count, SubtasksReplaced entries problem (memory t) count) ∧
      ∀ count, result = .ok count →
        count = groups.size ∧ SubtasksReplaced entries problem (memory t) groups.size := by
  rcases replaceSubtasks_run hm hknown hs h with
    ⟨⟨e, rfl⟩, hsame⟩ | ⟨new, hadds, hlength, hall, hok⟩
  · rw [hsame]
    exact ⟨.refl _ _, rfl, .inl rfl, by simp⟩
  · rw [← hlive] at hall
    obtain ⟨hkeeps, hnew, hreplaced⟩ := subtasksReplaced_of_adds hgroups hadds hlength hall
    refine ⟨hkeeps, hadds.problems, .inr ⟨_, hreplaced⟩, fun count hcount => ?_⟩
    obtain ⟨hcount, hall⟩ := hok count hcount
    exact ⟨hcount, hall ▸ hreplaced⟩

lemma settled_refl (entries : List Entry) (problem : Int) (s : Memory) :
    Settled entries problem s s :=
  { Memory.KeepsTests.refl _ _ with record := .inl rfl, replaced := .inl rfl }

/-- Only the record was changed, which is all there is to do without groups. -/
lemma settled_of_edits {a b : Memory}
    (hedits : a.EditsProblem b problem (Content.record entries)) :
    Settled entries problem a b ∧
      (Content.groups entries = none → Finished entries problem a b) := by
  constructor
  · exact { hedits.keepsTests with
      record := .inr hedits.record, replaced := .inl (hedits.subtasksOf problem) }
  · intro hnone
    refine ⟨hedits.record, ?_, fun _ => hedits.subtasksOf problem⟩
    intro groups hgroups
    rw [hnone] at hgroups
    contradiction

/-- The record was changed, and then the subtasks were replaced as far as it went. -/
lemma settled_of_replaced {a b c : Memory} {groups : Table Group}
    (hgroups : Content.groups entries = some groups)
    (hedits : a.EditsProblem b problem (Content.record entries)) (hkeeps : b.KeepsTests problem c)
    (hproblems : c.problems = b.problems)
    (hsubtasks : c.subtasksOf problem = b.subtasksOf problem ∨
      ∃ count, SubtasksReplaced entries problem c count) :
    Settled entries problem a c ∧
      (SubtasksReplaced entries problem c groups.size → Finished entries problem a c) := by
  have hrecord : RecordUpdated entries problem a c := by
    rw [RecordUpdated, hproblems]
    exact hedits.record
  rw [hedits.subtasksOf] at hsubtasks
  constructor
  · exact { hedits.keepsTests.trans hkeeps with
      record := .inr hrecord
      replaced := hsubtasks.imp_right fun hreplaced => ⟨hrecord, hreplaced⟩ }
  · rintro ⟨only, honly, -, hall⟩
    obtain rfl : groups = only := Option.some.inj (hgroups.symm.trans honly)
    refine ⟨hrecord, ?_, by simp [hgroups]⟩
    intro other hother
    obtain rfl : groups = other := Option.some.inj (hgroups.symm.trans hother)
    rwa [Table.size, List.take_length] at hall

/-- The groups of an archive that can be imported list its tests only. -/
lemma exists_of_mem_groups (himportable : Importable entries) {properties : Properties}
    (hsettings : Content.settings entries = some properties) {groups : Table Group}
    (hgroups : properties.subtasks = some groups) {a : Memory} {live : List Store.Test}
    (htests : List.Forall₂ (Complete entries problem a) (Content.testNumbers entries) live) :
    ∀ g ∈ groups.entries, ∀ number ∈ g.2.tests, ∃ test ∈ live, test.visibleId = number := by
  intro g hg number hnumber
  have hmem := himportable.groups properties hsettings number
    (Properties.mem_subtaskedTests.mpr ⟨groups, hgroups, g, hg, hnumber⟩)
  obtain ⟨test, htest, hcomplete⟩ := exists_of_mem_of_forall₂ htests hmem
  exact ⟨test, htest, hcomplete.visibleId⟩

/-- The last phase changes the record before the subtasks, and all of both if it succeeds. -/
theorem settle_run (hm : MayRefuse handle memory) (himportable : Importable entries)
    (hs : (memory s).WellFormed) {live : List Store.Test}
    (hlive : (memory s).liveTests problem = live)
    (htests : List.Forall₂ (Complete entries problem (memory s)) (Content.testNumbers entries) live)
    {result : Except Error Summary}
    (h : runOn handle (settle (live.map fun test => (test.visibleId, test.id)) problem
      (Content.settings entries)) s = (result, t)) :
    Settled entries problem (memory s) (memory t) ∧
      ∀ summary, result = .ok summary →
        Finished entries problem (memory s) (memory t) ∧ summary = summaryOf entries := by
  have hcount : live.length = (Content.testNumbers entries).length := htests.length_eq.symm
  cases hsettings : Content.settings entries with
  | none =>
    rw [hsettings] at h
    have hrecord : ∀ record, Content.record entries record = record := by
      intro record
      rw [Content.record, hsettings]
    have hnone : Content.groups entries = none := by simp [Content.groups, hsettings]
    obtain ⟨rfl, rfl⟩ : .ok { tests := live.length } = result ∧ s = t := by simpa [settle] using h
    obtain ⟨hsettled, hfinished⟩ := settled_of_edits (.refl (memory s) problem hrecord)
    refine ⟨hsettled, fun summary hsummary => ⟨hfinished hnone, ?_⟩⟩
    obtain rfl := Except.ok.inj hsummary
    simp [summaryOf, hnone, hsettings, hcount]
  | some properties =>
    rw [hsettings, settle, Transfer.runOn_bind] at h
    rcases hupdate : runOn handle (updateProblem problem properties.toUpdate) s with ⟨updated, u⟩
    rw [hupdate] at h
    rcases updateProblem_run hm hsettings hupdate with ⟨⟨e, rfl⟩, hsame⟩ | ⟨rfl, hedits⟩
    · obtain ⟨rfl, rfl⟩ : .error e = result ∧ u = t := by simpa using h
      exact ⟨hsame ▸ settled_refl .., by simp⟩
    simp only [Transfer.runOn_bind] at h
    cases hgroups : properties.subtasks with
    | none =>
      have hnone : Content.groups entries = none := by simp [Content.groups, hsettings, hgroups]
      obtain ⟨rfl, rfl⟩ : .ok ⟨live.length, 0, !properties.toUpdate.isEmpty⟩ = result ∧ u = t := by
        simpa [hgroups, replaceSubtasks] using h
      obtain ⟨hsettled, hfinished⟩ := settled_of_edits hedits
      refine ⟨hsettled, fun summary hsummary => ⟨hfinished hnone, ?_⟩⟩
      obtain rfl := Except.ok.inj hsummary
      simp [summaryOf, hnone, hsettings, hcount]
    | some groups =>
      have hsome : Content.groups entries = some groups := by
        simp [Content.groups, hsettings, hgroups]
      rcases hreplace : runOn handle (replaceSubtasks (live.map fun test =>
        (test.visibleId, test.id)) problem (some groups)) u with ⟨replaced, v⟩
      rw [hgroups, hreplace] at h
      have hliveThen := (hedits.keepsTests.liveTests problem).trans hlive
      obtain ⟨hkeeps, hproblems, hsubtasks, hok⟩ :=
        replaceSubtasks_keeps hm (hedits.wellFormed hs) hliveThen hsome
          (exists_of_mem_groups himportable hsettings hgroups htests) hreplace
      obtain ⟨hsettled, hfinished⟩ := settled_of_replaced hsome hedits hkeeps hproblems hsubtasks
      cases replaced with
      | error e =>
        obtain ⟨rfl, rfl⟩ : .error e = result ∧ v = t := by simpa using h
        exact ⟨hsettled, by simp⟩
      | ok count =>
        obtain ⟨rfl, rfl⟩ :
            .ok ⟨live.length, count, !properties.toUpdate.isEmpty⟩ = result ∧ v = t := by
          simpa using h
        obtain ⟨rfl, hall⟩ := hok count rfl
        refine ⟨hsettled, fun summary hsummary => ⟨hfinished hall, ?_⟩⟩
        obtain rfl := Except.ok.inj hsummary
        simp [summaryOf, hsome, hsettings, hcount]

end Run

end Judge.Archive.Import
