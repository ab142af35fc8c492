import Mathlib.Data.List.Forall2
import Judge.Proofs.Archive.Prepare
import Judge.Proofs.Transfer

/-!
The steps of an import of an archive that can be imported: opening data and resolving tests cannot
fail any more, so each test is three store calls and each subtask is one.
-/

namespace Judge.Archive

/-- In an archive that can be imported each test has one entry for each part, which opens. -/
theorem Readable.holder {entries : List Entry} (h : Readable entries) {kind : EntryKind}
    (hle : (Content.holders entries kind).length ≤ 1) (hne : Content.holders entries kind ≠ []) :
    ∃ index entry source, Content.position entries kind = some index ∧
      entries[index]? = some entry ∧ Content.holders entries kind = [entry] ∧
      entry.opened = .ok source := by
  have hsome : (Content.position entries kind).isSome := by
    rw [Option.isSome_iff_ne_none, Ne, Content.position_eq_none_iff]
    exact hne
  obtain ⟨index, hindex⟩ := Option.isSome_iff_exists.mp hsome
  obtain ⟨entry, hentry, hkind⟩ := Content.getElem?_position hindex
  have hmem : entry ∈ entries := List.mem_of_getElem? hentry
  obtain ⟨source, hsource⟩ := h.opened entry hmem
  obtain ⟨only, honly⟩ := List.length_eq_one_iff.mp
    (Nat.le_antisymm hle (List.length_pos_of_ne_nil hne))
  have : entry ∈ Content.holders entries kind := Content.mem_holders.mpr ⟨hmem, hkind⟩
  rw [honly, List.mem_singleton] at this
  exact ⟨index, entry, source, hindex, hentry, this ▸ honly, hsource⟩

namespace Import

/-- The data of a test: the entries that hold its parts, and what opening them gives. -/
structure Data (entries : List Entry) (number : Int) (input output : Source) : Prop where
  inputHolder : ∃ entry, Content.holders entries (.input number) = [entry] ∧
    entry.opened = .ok input
  outputHolder : ∃ entry, Content.holders entries (.output number) = [entry] ∧
    entry.opened = .ok output

/-- Stores one test with its data. -/
def storeTest (problem number score : Int) (input output : Source) : Transfer Int := do
  let test : Store.Test := { problemId := problem, visibleId := number, score := score }
  let id ← Transfer.request .createTest (.createTest test)
  Transfer.request .createInput (.saveInput id input)
  Transfer.request .createOutput (.saveOutput id output)
  return id

/-- A test whose data is found and opens. -/
structure Ready (entries : List Entry) (number : Int) (input output : Source) : Prop extends
    Data entries number input output where
  openInput : ∃ index, Content.position entries (.input number) = some index ∧
    openData entries index = Transfer.ofExcept (.ok input)
  openOutput : ∃ index, Content.position entries (.output number) = some index ∧
    openData entries index = Transfer.ofExcept (.ok output)

lemma openData_eq {entries : List Entry} {index : Nat} {entry : Entry} {source : Source}
    (hentry : entries[index]? = some entry) (ho : entry.opened = .ok source) :
    openData entries index = Transfer.ofExcept (.ok source) := by
  have hopen : openAt entries index = .ok (entry, source) := by
    rw [openAt, hentry]
    exact congrArg (Except.map (entry, ·)) ho
  rw [openData, hopen]
  rfl

/-- All tests of an archive that can be imported are ready. -/
theorem ready_of_importable {entries : List Entry} (h : Importable entries) {number : Int}
    (hnumber : number ∈ Content.testNumbers entries) :
    ∃ input output, Ready entries number input output := by
  obtain ⟨hin, hout⟩ := h.complete number hnumber
  obtain ⟨i, entry, input, hi, hentry, honly, ho⟩ := h.holder (h.inputs number) hin
  obtain ⟨j, entry', output, hj, hentry', honly', ho'⟩ := h.holder (h.outputs number) hout
  exact ⟨input, output, ⟨⟨entry, honly, ho⟩, ⟨entry', honly', ho'⟩⟩,
    ⟨i, hi, openData_eq hentry ho⟩, ⟨j, hj, openData_eq hentry' ho'⟩⟩

lemma ofExcept_ok_bind {α β : Type} (a : α) (next : α → Transfer β) :
    (Transfer.ofExcept (.ok a) >>= next) = next a := rfl

/-- A ready test is stored, and then the others are. -/
theorem createTests_cons {entries : List Entry} {problem number : Int}
    {rest : List (Int × TestFiles)} {input output : Source} (h : Ready entries number input output) :
    createTests entries problem ((number, Content.files entries number) :: rest) = (do
      let id ← storeTest problem number (Content.score entries number) input output
      let created ← createTests entries problem rest
      return (number, id) :: created) := by
  obtain ⟨i, hi, hopen⟩ := h.openInput
  obtain ⟨j, hj, hopen'⟩ := h.openOutput
  simp only [createTests, Content.files, hi, hj, hopen, hopen', storeTest, ofExcept_ok_bind,
    bind_assoc, pure_bind]

/-- Tests that were all created are resolved. -/
theorem resolveTests_ok {created : List (Int × Int)} {tests : List Int}
    (h : ∀ test ∈ tests, test ∈ created.map (·.1)) :
    ∃ ids, resolveTests created tests = .ok ids ∧
      List.Forall₂ (fun test id => created.lookup test = some id) tests ids := by
  induction tests with
  | nil => exact ⟨[], rfl, .nil⟩
  | cons test tests ih =>
    obtain ⟨ids, hids, hall⟩ := ih fun t ht => h t (List.mem_cons_of_mem _ ht)
    obtain ⟨id, hid⟩ := Option.isSome_iff_exists.mp
      (Scan.isSome_lookup_iff.mpr (h test (by simp)))
    refine ⟨id :: ids, ?_, .cons hid hall⟩
    rw [resolveTests] at hids ⊢
    rw [List.mapM_cons, hid, hids]
    rfl

/-- A group of tests that were all created becomes a subtask, and then the others do. -/
theorem createSubtasks_cons {created : List (Int × Int)} {problem position : Int} {group : Group}
    {rest : List (Int × Group)} {ids : List Int} (h : resolveTests created group.tests = .ok ids) :
    createSubtasks created problem ((position, group) :: rest) = (do
      let subtask : Store.Subtask :=
        { problemId := problem, visibleId := position, score := group.score, tests := ids }
      let _ ← Transfer.request .createSubtask (.createSubtask subtask)
      createSubtasks created problem rest) := by
  simp only [createSubtasks, h, ofExcept_ok_bind]

end Import
end Judge.Archive
