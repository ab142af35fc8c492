import Judge.Proofs.Export.Run
import Judge.Proofs.Import.Calls
import Judge.Proofs.Import.Outcome
import Judge.Proofs.Store.View

/-!
Sessions with a store: calls, imports and exports one after the other. A store on disk and one in
memory that both start empty give the same in every session, and the one on disk may be opened again
between any two steps.
-/

namespace Judge.Archive

open Decimal (int64)
open Host (FileTree)
open Store (Alike Memory Root Handler)
open Store.Disk (Stores Kept Blank openStore newRoot newTree blank_newRoot openStore_newRoot)
open Transfer (Sat runOn)

/-- What is done with a store. -/
inductive Step where
  | call (call : Store.Call)
  | importArchive (problem : Int) (entries : List Entry)
  | exportArchive (problem : Store.Problem)
  /-- Opens the store again. -/
  | reopen

namespace Step

/-- What a step gives if it succeeds. -/
abbrev Value : Step → Type
  | .call c => c.Value
  | .importArchive _ _ => Summary
  | .exportArchive _ => List Entry
  | .reopen => Unit

variable {σ : Type}

/-- Takes a step with a kind of store. -/
def run (handle : Handler σ) (reopen : σ → Except Store.Error Unit × σ) :
    (step : Step) → σ → Option step.Value × σ
  | .call c, s => (handle c s).map Except.toOption id
  | .importArchive problem entries, s =>
    (runOn handle (Archive.importArchive entries problem) s).map Except.toOption id
  | .exportArchive problem, s =>
    (runOn handle (Archive.exportArchive problem) s).map Except.toOption id
  | .reopen, s => (reopen s).map Except.toOption id

/-- Takes a step with a store on disk. -/
def onDisk (root : Root) (step : Step) (tree : FileTree) : Option step.Value × FileTree :=
  step.run (Store.Disk.handle root) (Store.Disk.runOn (openStore root)) tree

/-- Takes a step with a memory, which is always open. -/
def inMemory (step : Step) (m : Memory) : Option step.Value × Memory :=
  step.run Memory.handle (fun m => (.ok (), m)) m

/-- Takes steps one after the other. Gives what each of them gave. -/
def runAll (take : (step : Step) → σ → Option step.Value × σ) :
    List Step → σ → List ((step : Step) × Option step.Value) × σ
  | [], s => ([], s)
  | step :: steps, s =>
    let (value, s) := take step s
    let (values, s) := runAll take steps s
    (⟨step, value⟩ :: values, s)

/-- Streams deliver all their bytes, time limits are read back as they are written, and numbers are
in the range of their types. -/
def Fits : Step → Prop
  | .call c => c.Sized ∧ c.Clean
  | .importArchive problem entries => int64.contains problem = true ∧ Import.Positioned entries ∧
    (∀ number source, Import.IsData entries (.input number) source ∨
      Import.IsData entries (.output number) source → source.fault = none) ∧
    ∀ settings limit, Content.settings entries = some settings → settings.timeLimit = some limit →
      Json.Recordable limit
  | .exportArchive problem => int64.contains problem.id = true
  | .reopen => True

end Step

section Programs

variable {root : Root} {tree : FileTree} {m : Memory} {α : Type} {allowed : Store.Call → Prop}
  {expected : (call : Store.Call) → call.Value → Prop} {post : α → Prop} {transfer : Transfer α}

/-- A program that makes calls which fit gives the same on disk as in memory. -/
theorem alike_run (hsat : Sat allowed expected post transfer)
    (hallowed : ∀ call, allowed call → call.Sized ∧ call.Clean)
    (hexpected : ∀ call m value, Kept (Memory.handle call m).2 →
      (Memory.handle call m).1 = .ok value → expected call value)
    (h : Stores root tree m) (hm : Kept m)
    (hid : (runOn Memory.handle transfer m).2.lastId ≤ int64.greatest) :
    Alike (runOn (Store.Disk.handle root) transfer tree).1 (runOn Memory.handle transfer m).1 ∧
      Stores root (runOn (Store.Disk.handle root) transfer tree).2
        (runOn Memory.handle transfer m).2 ∧
      Kept (runOn Memory.handle transfer m).2 := by
  have hstep : ∀ call m tree, allowed call → Stores root tree m ∧ Kept m →
      (∀ id, call.newId? (Memory.handle call m).1 = some id → id ≤ int64.greatest) →
      Alike (Memory.handle call m).1 (Store.Disk.handle root call tree).1 ∧
        (Stores root (Store.Disk.handle root call tree).2 (Memory.handle call m).2 ∧
          Kept (Memory.handle call m).2) ∧
        ∀ value, (Memory.handle call m).1 = .ok value → expected call value := by
    rintro call m tree hcall ⟨h, hm⟩ hnew
    obtain ⟨hsized, hclean⟩ := hallowed call hcall
    obtain ⟨halike, hstores⟩ := h.handle hm hsized hclean
    have hkept := hm.handle hsized hclean
      (Store.Disk.lastId_le_of_newId hm.sized.lastId.2 hnew)
    exact ⟨halike.symm, ⟨hstores, hkept⟩, fun value => hexpected call m value hkept⟩
  -- Ids only grow, so it is enough that the last one fits.
  have hids : ∀ id ∈ Store.Handler.assigned Memory.handle (Transfer.calls Memory.handle transfer m)
      m, id ≤ int64.greatest := by
    intro id hmem
    have hlast := ((Store.Follows.memory.ascending _ m).2.2 id hmem).2
    rw [Transfer.runOn, Store.Handler.snd_run] at hid
    exact Int.le_trans hlast hid
  obtain ⟨halike, hlast, -⟩ := hsat.lockstep hstep ⟨h, hm⟩ hids
  exact ⟨halike.symm, hlast⟩

end Programs

section Steps

variable {root : Root} {tree : FileTree} {m : Memory} {entries : List Entry} {problem : Int}
  {call : Store.Call} {value : call.Value} {step : Step} {steps : List Step}

lemma contains_lastId (hm : Kept m) : int64.contains m.lastId = true := by
  have hlast := hm.sized.lastId
  rw [Decimal.Bounds.contains_iff]
  simp only [int64] at hlast ⊢
  omega

/-- The ids that an import is given fit. -/
lemma assigns_of_kept (hm : Kept (Memory.handle call m).2)
    (h : (Memory.handle call m).1 = .ok value) :
    Import.Assigns (fun id => int64.contains id = true) call value := by
  cases call with
  | createTest test =>
    obtain rfl : m.lastId + 1 = value := Except.ok.inj h
    exact contains_lastId hm
  | problem | saveProblem | updateProblem | tests | orphanTests | saveInput | saveOutput | input
  | output | purgeData | createSubtask | subtasks | deleteSubtasks => trivial

/-- The ids of the tests that an export is told of fit. -/
lemma lists_of_kept (hm : Kept (Memory.handle call m).2)
    (h : (Memory.handle call m).1 = .ok value) :
    Export.Lists (fun id => int64.contains id = true) call value := by
  cases call with
  | tests problem =>
    obtain rfl : m.liveTests problem = value := Except.ok.inj h
    exact fun test htest =>
      (hm.sized.tests problem test (Memory.mem_allTests_of_mem_liveTests htest)).id
  | problem | saveProblem | updateProblem | createTest | orphanTests | saveInput | saveOutput
  | input | output | purgeData | createSubtask | subtasks | deleteSubtasks => trivial

lemma fits_of_makes {assigned : Int → Prop} (hfits : (Step.importArchive problem entries).Fits)
    (hassigned : ∀ id, assigned id → int64.contains id = true)
    (h : Import.Makes entries problem assigned call) : call.Sized ∧ call.Clean := by
  obtain ⟨hproblem, hpositioned, hdelivers, hlimit⟩ := hfits
  refine ⟨h.sized hproblem hassigned hpositioned, ?_⟩
  cases call with
  | saveInput id source =>
    obtain ⟨-, number, hsource⟩ := h
    exact hdelivers number source (.inl hsource)
  | saveOutput id source =>
    obtain ⟨-, number, hsource⟩ := h
    exact hdelivers number source (.inr hsource)
  | updateProblem id update =>
    obtain ⟨-, settings, hsettings, rfl⟩ := h
    exact fun limit => hlimit settings limit hsettings
  | orphanTests | deleteSubtasks | createTest | createSubtask => trivial
  | problem | saveProblem | tests | input | output | purgeData | subtasks => exact h.elim

lemma fits_of_reads {listed : Int → Prop} (hproblem : int64.contains problem = true)
    (hlisted : ∀ id, listed id → int64.contains id = true)
    (h : Export.Makes problem listed call) : call.Sized ∧ call.Clean := by
  cases call with
  | tests id | subtasks id =>
    obtain rfl : id = problem := h
    exact ⟨hproblem, trivial⟩
  | input id | output id => exact ⟨hlisted id h, trivial⟩
  | problem | saveProblem | updateProblem | createTest | orphanTests | saveInput | saveOutput
  | purgeData | createSubtask | deleteSubtasks => exact h.elim

/-- Every step gives the same on disk as in memory. -/
theorem alike_step (hfits : step.Fits) (h : Stores root tree m) (hm : Kept m)
    (hid : (step.inMemory m).2.lastId ≤ int64.greatest) :
    (step.onDisk root tree).1 = (step.inMemory m).1 ∧
      Stores root (step.onDisk root tree).2 (step.inMemory m).2 ∧ Kept (step.inMemory m).2 := by
  cases step with
  | call call =>
    obtain ⟨halike, hstores⟩ := h.handle hm hfits.1 hfits.2
    exact ⟨halike, hstores, hm.handle hfits.1 hfits.2 hid⟩
  | importArchive problem entries =>
    exact alike_run (Import.sat_importArchive entries problem fun id => int64.contains id = true)
      (fun _ => fits_of_makes hfits fun _ hassigned => hassigned)
      (fun _ _ _ => assigns_of_kept) h hm hid
  | exportArchive problem =>
    exact alike_run (Export.sat_exportArchive problem fun id => int64.contains id = true)
      (fun _ => fits_of_reads hfits fun _ hlisted => hlisted)
      (fun _ _ _ => lists_of_kept) h hm hid
  | reopen =>
    have hopen := h.tidy.openStore
    simp only [Step.onDisk, Step.run, hopen]
    exact ⟨rfl, h, hm⟩

lemma lastId_le_step (step : Step) (m : Memory) :
    m.lastId ≤ (step.inMemory m).2.lastId := by
  have hprogram : ∀ {α : Type} (program : Store.Program α),
      m.lastId ≤ (program.run Memory.handle m).2.lastId := by
    intro α program
    rw [Store.Handler.snd_run]
    exact (Store.Follows.memory.ascending _ m).2.1
  cases step with
  | call call => exact (Memory.lastId_handle call m).1
  | importArchive problem entries => exact hprogram (importArchive entries problem).run
  | exportArchive problem => exact hprogram (exportArchive problem).run
  | reopen => exact Int.le_refl _

lemma lastId_le_runAll (steps : List Step) (m : Memory) :
    m.lastId ≤ (Step.runAll Step.inMemory steps m).2.lastId := by
  induction steps generalizing m with
  | nil => exact Int.le_refl _
  | cons step steps ih => exact Int.le_trans (lastId_le_step step m) (ih _)

/-- So does every session. -/
theorem alike_runAll (hfits : ∀ step ∈ steps, step.Fits) (h : Stores root tree m) (hm : Kept m)
    (hid : (Step.runAll Step.inMemory steps m).2.lastId ≤ int64.greatest) :
    (Step.runAll (Step.onDisk root) steps tree).1 = (Step.runAll Step.inMemory steps m).1 ∧
      Stores root (Step.runAll (Step.onDisk root) steps tree).2
        (Step.runAll Step.inMemory steps m).2 := by
  induction steps generalizing tree m with
  | nil => exact ⟨rfl, h⟩
  | cons step steps ih =>
    obtain ⟨hvalue, hstores, hkept⟩ := alike_step (hfits step (by simp)) h hm
      (Int.le_trans (lastId_le_runAll steps _) hid)
    obtain ⟨hvalues, hlast⟩ := ih (fun s hs => hfits s (by simp [hs])) hstores hkept hid
    refine ⟨?_, hlast⟩
    simp only [Step.runAll]
    rw [hvalue, hvalues]

/-- Stores of both kinds that start empty give the same in every session, as long as the ids fit.
Opening the one on disk again at any time changes nothing. -/
theorem disk_interchanges_with_memory {opened : FileTree} (hblank : Blank root tree)
    (hopen : Store.Disk.runOn (openStore root) tree = (.ok (), opened))
    (hfits : ∀ step ∈ steps, step.Fits)
    (hid : (Step.runAll Step.inMemory steps {}).2.lastId ≤ int64.greatest) :
    (Step.runAll (Step.onDisk root) steps opened).1 = (Step.runAll Step.inMemory steps {}).1 ∧
      Store.Disk.runOn (openStore root) (Step.runAll (Step.onDisk root) steps opened).2 =
        (.ok (), (Step.runAll (Step.onDisk root) steps opened).2) := by
  obtain ⟨hvalues, hstores⟩ := alike_runAll hfits (Store.Disk.stores_empty hblank hopen)
    Store.Disk.kept_empty hid
  exact ⟨hvalues, hstores.tidy.openStore⟩

/-- A new problem. -/
def someProblem : Store.Problem := { id := 1, name := "Sum" }

/-- A problem is saved and gets tests, which are exported after the store was opened again. -/
def someSteps : List Step := [
  .call (.saveProblem someProblem), .importArchive 1 Import.twoTests, .call (.tests 1), .reopen,
  .call (.input 2), .exportArchive someProblem]

lemma recordable_ofInt : Json.Recordable (.ofInt 1) ∧ Json.Recordable (.ofInt 2) := by
  rw [Json.Recordable, Json.Recordable]
  decide +kernel

lemma fits_saveProblem : (Step.call (.saveProblem someProblem)).Fits := by
  have hlimit : someProblem.timeLimit = .ofInt 1 := by rw [someProblem]
  have hrecordable : Json.Recordable someProblem.timeLimit := by
    rw [hlimit]
    exact recordable_ofInt.1
  exact ⟨⟨by decide, by decide, by decide, by decide⟩, hrecordable⟩

lemma fits_importArchive_twoTests : (Step.importArchive 1 Import.twoTests).Fits := by
  have hopened : ∀ entry ∈ Import.twoTests, entry.opened = .ok ⟨entry.data, none⟩ := by
    decide +kernel
  have hdelivers : ∀ kind source, Import.IsData Import.twoTests kind source →
      source.fault = none := by
    rintro kind source ⟨entry, hentry, hsource⟩
    rw [hopened entry (Content.mem_holders.mp hentry).1] at hsource
    rw [← Except.ok.inj hsource]
  have htime : (Content.settings Import.twoTests).bind Properties.timeLimit = some (.ofInt 2) := by
    decide +kernel
  refine ⟨by decide, Import.positioned_twoTests, ?_, fun settings limit hsettings hlimit => ?_⟩
  · exact fun number source => fun h => h.elim (hdelivers _ _) (hdelivers _ _)
  · have htwo : limit = .ofInt 2 := by
      rw [hsettings, Option.bind_some, hlimit] at htime
      exact Option.some.inj htime
    rw [htwo]
    exact recordable_ofInt.2

/-- A session in a directory that was not there before. -/
theorem disk_interchanges_with_memory_someSteps :
    (Step.runAll (Step.onDisk newRoot) someSteps newTree).1 =
        (Step.runAll Step.inMemory someSteps {}).1 ∧
      Store.Disk.runOn (openStore newRoot)
          (Step.runAll (Step.onDisk newRoot) someSteps newTree).2 =
        (.ok (), (Step.runAll (Step.onDisk newRoot) someSteps newTree).2) := by
  refine disk_interchanges_with_memory blank_newRoot openStore_newRoot ?_ ?_
  · simp only [someSteps, List.forall_mem_cons]
    have hone : int64.contains 1 = true := by decide
    have htwo : int64.contains 2 = true := by decide
    exact ⟨fits_saveProblem, fits_importArchive_twoTests, ⟨hone, trivial⟩, trivial, ⟨htwo, trivial⟩,
      hone, by simp⟩
  · change (runOn Memory.handle (exportArchive _) _).2.lastId ≤ _
    rw [Export.exportArchive_keeps]
    decide +kernel

end Steps

end Judge.Archive
