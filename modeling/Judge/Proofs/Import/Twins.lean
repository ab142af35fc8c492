import Judge.Proofs.Import.Calls
import Judge.Proofs.Import.Turns
import Judge.Proofs.Store.View

/-!
Imports that share a store on disk go the same way as if they shared the memory that remembers its
calls, as long as the numbers fit: the same imports have their locks, and they make the same calls.
-/

namespace Judge.Archive

open Decimal (int64)
open Host (FileTree)
open Import (Assigns Makes Positioned sat_importArchive)
open Store (Alike Call Follows Handler Memory Root)
open Store.Disk (Stores follows_remember remember sized_remember)
open Transfer (Satisfies)

/-- A store on disk that stores what a memory holds, with numbers that fit. -/
structure Reflects (root : Root) (tree : FileTree) (m : Memory) : Prop where
  stores : Stores root tree m
  wellFormed : m.WellFormed
  sized : m.Sized

/-- An import whose numbers fit. -/
structure FitsDisk (problem : Int) (entries : List Entry) : Prop where
  problem : int64.contains problem = true
  positioned : Positioned entries

/-- What is left of an import on disk and in memory: the same, or it fails. -/
inductive TwinPrograms (entries : List Entry) (problem : Int) :
    Store.Program (Except Error Summary) → Store.Program (Except Error Summary) → Prop where
  | same {program : Store.Program (Except Error Summary)}
    (h : Satisfies (Makes entries problem fun id => int64.contains id = true)
      (Assigns fun id => int64.contains id = true) (fun _ => True) program) :
    TwinPrograms entries problem program program
  | failed (error error' : Error) :
    TwinPrograms entries problem (.done (.error error)) (.done (.error error'))

inductive TwinStages (entries : List Entry) (problem : Int) : ImportStage → ImportStage → Prop where
  | waiting : TwinStages entries problem .waiting .waiting
  | running {a b : Store.Program (Except Error Summary)} (h : TwinPrograms entries problem a b) :
    TwinStages entries problem (.running a) (.running b)
  | finished (a b : Except Error Summary) :
    TwinStages entries problem (.finished a) (.finished b)
  | withdrawn : TwinStages entries problem .withdrawn .withdrawn

inductive TwinJobs : Option LockedImport → Option LockedImport → Prop where
  | none : TwinJobs none none
  | some {problem : Int} {entries : List Entry} {a b : ImportStage} (hfits : FitsDisk problem entries)
    (h : TwinStages entries problem a b) :
    TwinJobs (some ⟨problem, entries, a⟩) (some ⟨problem, entries, b⟩)

section Calls

variable {root : Root} {tree : FileTree} {m : Memory} {entries : List Entry} {problem : Int}

lemma lastId_remember_le (call : Call) (m : Memory) : m.lastId ≤ (remember call m).2.lastId :=
  (@Follows.newId _ remember id m follows_remember call).1

lemma lastId_run_remember_le {α : Type} (program : Store.Program α) (m : Memory) :
    m.lastId ≤ (program.run remember m).2.lastId := by
  induction program generalizing m with
  | done result => exact Int.le_refl _
  | call call next ih => exact Int.le_trans (lastId_remember_le call m) (ih _ _)

/-- A call is answered alike, and the rest of the import is a twin. -/
lemma twin_call {call : Call} {next : call.Answer → Store.Program (Except Error Summary)}
    (hfits : FitsDisk problem entries) (h : Reflects root tree m)
    (hsat : Satisfies (Makes entries problem fun id => int64.contains id = true)
      (Assigns fun id => int64.contains id = true) (fun _ => True) (.call call next))
    (hid : (remember call m).2.lastId ≤ int64.greatest) :
    Reflects root (Store.Disk.handle root call tree).2 (remember call m).2 ∧
      TwinPrograms entries problem (next (Store.Disk.handle root call tree).1)
        (next (remember call m).1) := by
  obtain ⟨hcall, hended, hrest⟩ := hsat
  have hsized := hcall.sized hfits.problem (fun _ hfits => hfits) hfits.positioned
  obtain ⟨halike, hstores⟩ := h.stores.simulates h.wellFormed h.sized hsized
  have hnext : Reflects root (Store.Disk.handle root call tree).2 (remember call m).2 :=
    ⟨hstores, follows_remember.wellFormed h.wellFormed call,
      sized_remember h.sized h.wellFormed hsized hid⟩
  refine ⟨hnext, ?_⟩
  cases hanswer : (Store.Disk.handle root call tree).1 with
  | error cause =>
    cases hanswer' : (remember call m).1 with
    | error cause' =>
      obtain ⟨error, hdone⟩ := hended cause
      obtain ⟨error', hdone'⟩ := hended cause'
      rw [hdone, hdone']
      exact .failed error error'
    | ok value => simp [Alike, hanswer, hanswer', Except.toOption] at halike
  | ok value =>
    cases hanswer' : (remember call m).1 with
    | error cause => simp [Alike, hanswer, hanswer', Except.toOption] at halike
    | ok value' =>
      obtain rfl : value = value' := by
        simpa [Alike, hanswer, hanswer', Except.toOption] using halike
      refine .same (hrest value ?_)
      cases call with
      | createTest test =>
        obtain rfl : m.lastId + 1 = value := Except.ok.inj hanswer'
        have hlow := h.sized.lastId
        have hhigh : m.lastId + 1 ≤ int64.greatest := hid
        change int64.contains (m.lastId + 1) = true
        rw [Decimal.Bounds.contains_iff]
        simp only [int64] at hlow hhigh ⊢
        omega
      | problem | saveProblem | updateProblem | tests | orphanTests | saveInput | saveOutput | input
      | output | purgeData | createSubtask | subtasks | deleteSubtasks => trivial

lemma Reflects.run {a b : Store.Program (Except Error Summary)} (hfits : FitsDisk problem entries)
    (h : Reflects root tree m) (htwins : TwinPrograms entries problem a b)
    (hid : (b.run remember m).2.lastId ≤ int64.greatest) :
    Reflects root (a.run (Store.Disk.handle root) tree).2 (b.run remember m).2 := by
  induction a generalizing b tree m with
  | done result =>
    cases htwins with
    | same | failed => exact h
  | call call next ih =>
    cases htwins with
    | same hsat =>
      rw [Script.run_call] at hid
      rw [Script.run_call, Script.run_call]
      have hle := lastId_run_remember_le (next (remember call m).1) (remember call m).2
      obtain ⟨hnext, htwins⟩ := twin_call hfits h hsat (Int.le_trans hle hid)
      exact ih _ hnext htwins hid

end Calls

namespace Imports

/-- Imports on disk and the same imports in the memory that remembers their calls. -/
structure Twins (root : Root) (a : Imports FileTree) (b : Imports Memory) : Prop where
  locks : a.locks = b.locks
  reflects : Reflects root a.store b.store
  jobs : ∀ ticket, TwinJobs (a.jobs.get? ticket) (b.jobs.get? ticket)

namespace Twins

variable {root : Root} {a : Imports FileTree} {b : Imports Memory} {event : Event}
  {problem ticket : Int} {entries : List Entry}

lemma start {tree : FileTree} {m : Memory} (h : Reflects root tree m) :
    Twins root { store := tree } { store := m } :=
  ⟨rfl, h, fun ticket => by simp only [Table.get?_empty]; exact .none⟩

lemma advance (h : Twins root a b) {locks : Locks} {tree : FileTree} {m : Memory}
    {former former' stage stage' : ImportStage} (hreflects : Reflects root tree m)
    (hfits : FitsDisk problem entries) (hstages : TwinStages entries problem stage stage') :
    Twins root
      (({ a with store := tree, locks } : Imports FileTree).advance ticket
        ⟨problem, entries, former⟩ stage)
      (({ b with store := m, locks } : Imports Memory).advance ticket
        ⟨problem, entries, former'⟩ stage') := by
  refine ⟨rfl, hreflects, fun other => ?_⟩
  simp only [Imports.advance, Table.get?_insert]
  split
  · exact .some hfits hstages
  · exact h.jobs other

lemma enter (h : Twins root a b) {locks : Locks} {former former' : ImportStage}
    (hfits : FitsDisk problem entries) :
    Twins root (({ a with locks } : Imports FileTree).enter ticket ⟨problem, entries, former⟩)
      (({ b with locks } : Imports Memory).enter ticket ⟨problem, entries, former'⟩) := by
  rw [Imports.enter, Imports.enter]
  split
  · exact h.advance h.reflects hfits (.running (.same (sat_importArchive entries problem _)))
  · exact h.advance h.reflects hfits .waiting

lemma step (h : Twins root a b) (hevent : event.Within FitsDisk)
    (hid : (b.step remember event).store.lastId ≤ int64.greatest) :
    Twins root (a.step (Store.Disk.handle root) event) (b.step remember event) := by
  cases event with
  | start problem entries =>
    simp only [Imports.step, start_eq, h.locks]
    exact h.enter hevent
  | poll ticket =>
    have hjobs := h.jobs ticket
    simp only [Imports.step, poll, h.locks]
    generalize a.jobs.get? ticket = job at hjobs ⊢
    generalize b.jobs.get? ticket = job' at hjobs ⊢
    cases hjobs with
    | none => exact h
    | some hfits hstages =>
      cases hstages with
      | waiting => exact h.enter hfits
      | running | finished | withdrawn => exact h
  | work ticket =>
    have hjobs := h.jobs ticket
    simp only [Imports.step, work, h.locks] at hid ⊢
    generalize a.jobs.get? ticket = job at hjobs ⊢
    generalize b.jobs.get? ticket = job' at hjobs hid ⊢
    cases hjobs with
    | none => exact h
    | some hfits hstages =>
      cases hstages with
      | waiting | finished | withdrawn => exact h
      | running htwins =>
        rcases htwins with @⟨_ | ⟨call, next⟩, hsat⟩ | ⟨error, error'⟩
        · exact h.advance h.reflects hfits (.finished _ _)
        · obtain ⟨hreflects, htwins⟩ := twin_call hfits h.reflects hsat hid
          exact h.advance hreflects hfits (.running htwins)
        · exact h.advance h.reflects hfits (.finished _ _)
  | abandon ticket =>
    have hjobs := h.jobs ticket
    simp only [Imports.step, abandon, h.locks]
    generalize a.jobs.get? ticket = job at hjobs ⊢
    generalize b.jobs.get? ticket = job' at hjobs ⊢
    cases hjobs with
    | none => exact h
    | some hfits hstages =>
      cases hstages with
      | waiting => exact h.advance h.reflects hfits .withdrawn
      | running | finished | withdrawn => exact h

lemma deed?_eq (h : Twins root a b) (event : Event) : a.deed? event = b.deed? event := by
  cases event with
  | start problem entries => simp only [deed?, h.locks]
  | poll ticket =>
    have hjobs := h.jobs ticket
    simp only [deed?, h.locks]
    generalize a.jobs.get? ticket = job at hjobs ⊢
    generalize b.jobs.get? ticket = job' at hjobs ⊢
    cases hjobs with
    | none => rfl
    | some hfits hstages => cases hstages <;> rfl
  | work ticket =>
    have hjobs := h.jobs ticket
    simp only [deed?]
    generalize a.jobs.get? ticket = job at hjobs ⊢
    generalize b.jobs.get? ticket = job' at hjobs ⊢
    cases hjobs with
    | none => rfl
    | some hfits hstages =>
      cases hstages with
      | waiting | finished | withdrawn => rfl
      | running htwins => cases htwins <;> rfl
  | abandon ticket => rfl

lemma ended (h : Twins root a b) (hended : a.Ended problem) : b.Ended problem := by
  intro ticket job hget hproblem
  have hjobs := h.jobs ticket
  rw [hget] at hjobs
  generalize ha : a.jobs.get? ticket = found at hjobs
  cases hjobs with
  | some hfits hstages =>
    have hover := hended ticket _ ha hproblem
    cases hstages with
    | finished | withdrawn => rfl
    | waiting | running => simp [ImportStage.isOver] at hover

lemma lastId_run_le (b : Imports Memory) (events : List Event) :
    b.store.lastId ≤ (b.run remember events).store.lastId := by
  induction events generalizing b with
  | nil => exact Int.le_refl _
  | cons event events ih =>
    refine Int.le_trans ?_ (ih (b.step remember event))
    rcases store_step remember b event with hsame | ⟨call, hcall⟩
    · rw [hsame]
    · rw [hcall]
      exact lastId_remember_le call b.store

lemma run (h : Twins root a b) {events : List Event}
    (hevents : ∀ event ∈ events, event.Within FitsDisk)
    (hid : (b.run remember events).store.lastId ≤ int64.greatest) :
    Twins root (a.run (Store.Disk.handle root) events) (b.run remember events) ∧
      deeds (Store.Disk.handle root) a events = deeds remember b events := by
  induction events generalizing a b with
  | nil => exact ⟨h, rfl⟩
  | cons event events ih =>
    have hnext := h.step (hevents event (by simp))
      (Int.le_trans (lastId_run_le (b.step remember event) events) hid)
    obtain ⟨hrun, hdeeds⟩ := ih hnext (fun e he => hevents e (by simp [he])) hid
    exact ⟨hrun, by rw [deeds, deeds, h.deed?_eq, hdeeds]⟩

end Twins

lemma lastId_serially_le (m : Memory) (imports : List (Int × List Entry)) :
    m.lastId ≤ (serially remember m imports).lastId := by
  induction imports generalizing m with
  | nil => exact Int.le_refl _
  | cons e imports ih => exact Int.le_trans (lastId_run_remember_le _ m) (ih _)

/-- Imports that run one after the other go the same way, too. -/
lemma reflects_serially {root : Root} {tree : FileTree} {m : Memory} (h : Reflects root tree m)
    {imports : List (Int × List Entry)} (hfits : ∀ e ∈ imports, FitsDisk e.1 e.2)
    (hid : (serially remember m imports).lastId ≤ int64.greatest) :
    Reflects root (serially (Store.Disk.handle root) tree imports) (serially remember m imports) := by
  induction imports generalizing tree m with
  | nil => exact h
  | cons e imports ih =>
    have htwins : TwinPrograms e.2 e.1 (importArchive e.2 e.1).run (importArchive e.2 e.1).run :=
      .same (sat_importArchive e.2 e.1 _)
    have hnext := h.run (hfits e (by simp)) htwins
      (Int.le_trans (lastId_serially_le _ imports) hid)
    exact ih hnext (fun other hother => hfits other (by simp [hother])) hid

end Imports
end Judge.Archive
