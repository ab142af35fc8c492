import Judge.Proofs.Store.Growth
import Judge.Proofs.Store.Ids
import Judge.Proofs.Store.Parts
import Judge.Proofs.Store.View

/-!
The tests of a problem as its part of a memory. A test shows its number, its score and its data, of
which `look` says how much is seen. The id of a test tells the order in which tests were created, in
any problem, so it does not show.
-/

namespace Judge.Store

structure Row (δ : Type) where
  number : Int
  score : Int
  input : δ
  output : δ
  deriving DecidableEq

namespace Memory

variable {δ : Type} {look : Option Bytes → δ}

def row (look : Option Bytes → δ) (m : Memory) (test : Test) : Row δ where
  number := test.visibleId
  score := test.score
  input := look (m.inputs.get? test.id)
  output := look (m.outputs.get? test.id)

/-- The live tests of a problem by id. -/
def current (m : Memory) (problem : Int) : List Test := (m.allTests problem).filter (!·.orphaned)

/-- What the live tests of a problem show, in the order in which they were created. -/
def rows (look : Option Bytes → δ) (m : Memory) (problem : Int) : List (Row δ) :=
  (m.current problem).map (m.row look)

/-- A memory in whose data nothing is seen of tests to come. -/
structure Clear (look : Option Bytes → δ) (m : Memory) : Prop extends WellFormed m where
  inputs : ∀ id, m.lastId < id → look (m.inputs.get? id) = look none
  outputs : ∀ id, m.lastId < id → look (m.outputs.get? id) = look none

/-- From one memory to the other the tests of a problem stayed as they were. -/
structure SameTests (problem : Int) (a b : Memory) : Prop where
  tests : b.allTests problem = a.allTests problem
  inputs : ∀ test ∈ a.allTests problem, b.inputs.get? test.id = a.inputs.get? test.id
  outputs : ∀ test ∈ a.allTests problem, b.outputs.get? test.id = a.outputs.get? test.id

def keepInput (m : Memory) (id : Int) : Option Bytes → Memory
  | some bytes => { m with inputs := m.inputs.insert id bytes }
  | none => m

def keepOutput (m : Memory) (id : Int) : Option Bytes → Memory
  | some bytes => { m with outputs := m.outputs.insert id bytes }
  | none => m

/-- A handler that keeps tests as memories do. What it keeps of data and whether it keeps all depends
on the stream only. -/
structure Faithful (handle : Handler Memory) : Prop where
  touches : ∀ call m, Touches call m (handle call m).2
  createTest : ∀ test m, handle (.createTest test) m = (.ok (m.lastId + 1), m.createTest test)
  orphanTests : ∀ id m, handle (.orphanTests id) m = (.ok (), m.orphanTests id)
  saveInput : ∀ source, ∃ (answer : Except Error Unit) (kept : Option Bytes), ∀ id m,
    handle (.saveInput id source) m = (answer, m.keepInput id kept)
  saveOutput : ∀ source, ∃ (answer : Except Error Unit) (kept : Option Bytes), ∀ id m,
    handle (.saveOutput id source) m = (answer, m.keepOutput id kept)

lemma faithful_handle : Faithful Memory.handle where
  touches := touches_handle
  createTest _ _ := rfl
  orphanTests _ _ := rfl
  saveInput source := by
    cases hread : source.readAll with
    | ok bytes =>
      exact ⟨.ok (), some bytes, fun id m => by simp only [Memory.handle, hread, keepInput]⟩
    | error cause =>
      exact ⟨.error (.io cause), none, fun id m => by simp only [Memory.handle, hread, keepInput]⟩
  saveOutput source := by
    cases hread : source.readAll with
    | ok bytes =>
      exact ⟨.ok (), some bytes, fun id m => by simp only [Memory.handle, hread, keepOutput]⟩
    | error cause =>
      exact ⟨.error (.io cause), none, fun id m => by simp only [Memory.handle, hread, keepOutput]⟩

/-- What is remembered of a store on disk: a stream with a fault leaves what it delivered. -/
lemma faithful_remember : Faithful Disk.remember where
  touches := Disk.touches_remember
  createTest _ _ := rfl
  orphanTests _ _ := rfl
  saveInput source :=
    ⟨(source.readAll.map fun _ => ()).mapError .io, some source.delivered, fun _ _ => rfl⟩
  saveOutput source :=
    ⟨(source.readAll.map fun _ => ()).mapError .io, some source.delivered, fun _ _ => rfl⟩

/-- The calls that concern no problem but one. -/
def Concerns (problem : Int) : Call → Memory → Prop
  | .updateProblem id _, _ | .orphanTests id, _ | .deleteSubtasks id, _ => id = problem
  | .createTest test, _ => test.problemId = problem
  | .createSubtask subtask, _ => subtask.problemId = problem
  | .saveInput id _, m | .saveOutput id _, m => ∃ test ∈ m.allTests problem, test.id = id
  | _, _ => False

section Ids

variable {m : Memory} {problem other : Int} {test found : Test}

lemma get?_of_mem_allTests (h : m.WellFormed) (htest : test ∈ m.allTests problem) :
    m.tests.get? test.id = some test ∧ test.problemId = problem := by
  obtain ⟨hmem, hproblem⟩ := List.mem_filter.mp htest
  obtain ⟨e, he, rfl⟩ := List.mem_map.mp hmem
  rw [(h.tests e he).1]
  exact ⟨Table.get?_eq_some_iff.mpr he, by simpa using hproblem⟩

lemma id_ne_of_ne (h : m.WellFormed) (htest : test ∈ m.allTests problem)
    (hfound : found ∈ m.allTests other) (hne : other ≠ problem) : test.id ≠ found.id := by
  obtain ⟨hget, hproblem⟩ := get?_of_mem_allTests h htest
  obtain ⟨hget', hother⟩ := get?_of_mem_allTests h hfound
  intro hid
  rw [hid, hget'] at hget
  obtain rfl := Option.some.inj hget
  exact hne (hother.symm.trans hproblem)

lemma ascending_allTests (h : m.WellFormed) (problem : Int) :
    (m.allTests problem).Pairwise (·.id < ·.id) := by
  apply List.Pairwise.filter
  refine List.pairwise_map.mpr (m.tests.ascending.imp_of_mem fun {a b} ha hb hlt => ?_)
  rwa [(h.tests a ha).1, (h.tests b hb).1]

end Ids

section Calls

variable {a b c m : Memory} {problem other : Int} {call : Call} {handle : Handler Memory}

lemma SameTests.refl (problem : Int) (m : Memory) : SameTests problem m m :=
  ⟨rfl, fun _ _ => rfl, fun _ _ => rfl⟩

lemma SameTests.trans (h : SameTests problem a b) (k : SameTests problem b c) :
    SameTests problem a c where
  tests := k.tests.trans h.tests
  inputs test htest := (k.inputs test (h.tests ▸ htest)).trans (h.inputs test htest)
  outputs test htest := (k.outputs test (h.tests ▸ htest)).trans (h.outputs test htest)

lemma wellFormed_of_touches (htouches : Touches call a b) (h : a.WellFormed) : b.WellFormed := by
  have hnext := wellFormed_handle h call
  exact ⟨by simpa only [htouches.tests, htouches.lastId] using hnext.tests,
    by simpa only [htouches.subtasks, htouches.lastId] using hnext.subtasks⟩

/-- Data is saved for tests of the problem only. -/
lemma exists_of_refills (hcall : Concerns problem call m) {id : Int} (h : call.refills = some id) :
    ∃ test ∈ m.allTests problem, test.id = id := by
  cases call with
  | saveInput test source | saveOutput test source => exact Option.some.inj h ▸ hcall
  | updateProblem | orphanTests | deleteSubtasks | createTest | createSubtask =>
    simp [Call.refills] at h
  | problem | saveProblem | tests | input | output | purgeData | subtasks => exact hcall.elim

lemma Clear.of_touches (h : Clear look a) (hcall : Concerns problem call a)
    (htouches : Touches call a b) : Clear look b := by
  have hlast : a.lastId ≤ b.lastId := by
    rw [htouches.lastId]
    exact (lastId_handle call a).1
  have hrefills : ∀ id, b.lastId < id → call.refills ≠ some id := by
    intro id hid hsome
    obtain ⟨test, htest, rfl⟩ := exists_of_refills hcall hsome
    have hle := h.id_le_lastId htest
    omega
  refine { wellFormed_of_touches htouches h.toWellFormed with inputs := ?_, outputs := ?_ }
  · intro id hid
    rw [htouches.inputs id (hrefills id hid), h.inputs id (Int.lt_of_le_of_lt hlast hid)]
  · intro id hid
    rw [htouches.outputs id (hrefills id hid), h.outputs id (Int.lt_of_le_of_lt hlast hid)]

lemma allTests_handle_of_ne (h : m.WellFormed) (hcall : Concerns problem call m)
    (hne : other ≠ problem) : (Memory.handle call m).2.allTests other = m.allTests other := by
  cases call with
  | orphanTests id =>
    obtain rfl : id = problem := hcall
    exact allTests_orphanTests_of_ne m hne
  | createTest test =>
    have hnone : test.problemId ≠ other := fun heq => hne (heq.symm.trans hcall)
    exact (allTests_of_adds (addsTests_createTest h test) other).trans (by simp [hnone])
  | updateProblem id update =>
    simp only [Memory.handle]
    split <;> rfl
  | saveInput id source | saveOutput id source =>
    simp only [Memory.handle]
    split <;> rfl
  | createSubtask | deleteSubtasks => rfl
  | problem | saveProblem | tests | input | output | purgeData | subtasks => exact hcall.elim

/-- Calls that concern one problem leave the tests of the others as they are. -/
lemma SameTests.of_touches (h : a.WellFormed) (hcall : Concerns problem call a)
    (htouches : Touches call a b) (hne : other ≠ problem) : SameTests other a b := by
  have hrefills : ∀ test ∈ a.allTests other, call.refills ≠ some test.id := by
    intro test htest hsome
    obtain ⟨found, hfound, hid⟩ := exists_of_refills hcall hsome
    exact id_ne_of_ne h hfound htest hne hid
  refine ⟨?_, fun test htest => htouches.inputs test.id (hrefills test htest),
    fun test htest => htouches.outputs test.id (hrefills test htest)⟩
  rw [allTests, htouches.tests]
  exact allTests_handle_of_ne h hcall hne

lemma SameTests.of_quiet (htouches : Touches call a b)
    (htests : (Memory.handle call a).2.tests = a.tests) (hrefills : call.refills = none) :
    SameTests problem a b := by
  refine ⟨by rw [allTests, htouches.tests, htests, allTests],
    fun test _ => htouches.inputs test.id ?_, fun test _ => htouches.outputs test.id ?_⟩ <;>
    simp [hrefills]

/-- The tests of the problems as the parts of a memory. -/
def parts (look : Option Bytes → δ) (h : Faithful handle) : Parts handle where
  Sound := Clear look
  Owns := Concerns
  Same := SameTests
  refl := SameTests.refl
  trans := SameTests.trans
  sound hm hcall := hm.of_touches hcall (h.touches _ _)
  same hm hcall _ hne := .of_touches hm.toWellFormed hcall (h.touches _ _) hne

end Calls

section Rows

variable {a b m : Memory} {problem : Int} {test : Test} {id : Int} {front : List (Row δ)}
  {last : Row δ}

lemma rows_of_same (h : SameTests problem a b) : b.rows look problem = a.rows look problem := by
  rw [rows, rows, current, current, h.tests]
  refine List.map_congr_left fun test htest => ?_
  have hmem := (List.mem_filter.mp htest).1
  rw [row, row, h.inputs test hmem, h.outputs test hmem]

lemma map_liveTests (m : Memory) (problem : Int) : (m.liveTests problem).map (m.row look) =
    (m.rows look problem).mergeSort fun x y => x.number ≤ y.number := by
  rw [liveTests, rows]
  exact List.map_mergeSort fun _ _ _ _ => rfl

lemma rows_orphanTests (m : Memory) (problem : Int) :
    (m.orphanTests problem).rows look problem = [] := by
  rw [rows, current, allTests_orphanTests, orphaned, List.map_eq_nil_iff, List.filter_eq_nil_iff,
    List.forall_mem_map]
  simp

/-- The live tests of a problem end with one that has an id and shows a row. -/
def EndsWith (look : Option Bytes → δ) (m : Memory) (problem : Int) (front : List (Row δ)) (id : Int)
    (last : Row δ) : Prop :=
  ∃ tests test, m.current problem = tests ++ [test] ∧ test.id = id ∧
    tests.map (m.row look) = front ∧ m.row look test = last

lemma EndsWith.rows (h : EndsWith look m problem front id last) :
    m.rows look problem = front ++ [last] := by
  obtain ⟨tests, test, hcurrent, -, rfl, rfl⟩ := h
  rw [Memory.rows, hcurrent, List.map_append, List.map_singleton]

lemma EndsWith.mem (h : EndsWith look m problem front id last) :
    ∃ test ∈ m.allTests problem, test.id = id := by
  obtain ⟨tests, test, hcurrent, hid, -, -⟩ := h
  have hmem : test ∈ m.current problem := by simp [hcurrent]
  exact ⟨test, (List.mem_filter.mp hmem).1, hid⟩

lemma EndsWith.of_same (h : EndsWith look a problem front id last) (hsame : SameTests problem a b) :
    EndsWith look b problem front id last := by
  obtain ⟨tests, test, hcurrent, hid, hfront, hlast⟩ := h
  have hrow : ∀ test ∈ a.current problem, b.row look test = a.row look test := by
    intro test htest
    have hmem := (List.mem_filter.mp htest).1
    rw [row, row, hsame.inputs test hmem, hsame.outputs test hmem]
  rw [hcurrent] at hrow
  refine ⟨tests, test, by rw [current, hsame.tests, ← hcurrent, current], hid, ?_, ?_⟩
  · rw [← hfront]
    exact List.map_congr_left fun found hfound => hrow found (by simp [hfound])
  · rw [← hlast]
    exact hrow test (by simp)

lemma endsWith_createTest (h : Clear look m) (hproblem : test.problemId = problem)
    (hlive : test.orphaned = false) :
    EndsWith look (m.createTest test) problem (m.rows look problem) (m.lastId + 1)
      ⟨test.visibleId, test.score, look none, look none⟩ := by
  have hadds := allTests_of_adds (addsTests_createTest h.toWellFormed test) problem
  refine ⟨m.current problem, { test with id := m.lastId + 1 }, ?_, rfl, rfl, ?_⟩
  · rw [current, hadds, List.filter_append, current]
    simp [hproblem, hlive]
  · have hinput := h.inputs _ (Int.lt_succ m.lastId)
    have houtput := h.outputs _ (Int.lt_succ m.lastId)
    simp only [row, createTest, hinput, houtput]

lemma EndsWith.ne (hwf : m.WellFormed) {tests : List Test}
    (hcurrent : m.current problem = tests ++ [test]) :
    ∀ found ∈ tests, test.id ≠ found.id := by
  have hasc := (ascending_allTests hwf problem).filter (!·.orphaned)
  change (m.current problem).Pairwise _ at hasc
  rw [hcurrent, List.pairwise_append] at hasc
  intro found hfound
  exact Ne.symm (Int.ne_of_lt (hasc.2.2 found hfound test (by simp)))

/-- Data that is kept for the last test shows there. -/
lemma EndsWith.keepInput (h : EndsWith look m problem front id last) (hwf : m.WellFormed)
    (kept : Option Bytes) : EndsWith look (m.keepInput id kept) problem front id
      { last with input := kept.elim last.input (look ∘ some) } := by
  cases kept with
  | none => exact h
  | some bytes =>
    obtain ⟨tests, test, hcurrent, rfl, rfl, rfl⟩ := h
    refine ⟨tests, test, hcurrent, rfl, List.map_congr_left fun found hfound => ?_, ?_⟩
    · simp only [row, Memory.keepInput,
        Table.get?_insert_of_ne _ _ (EndsWith.ne hwf hcurrent found hfound)]
    · simp only [row, Memory.keepInput, Table.get?_insert_self, Option.elim_some, Function.comp_apply]

lemma EndsWith.keepOutput (h : EndsWith look m problem front id last) (hwf : m.WellFormed)
    (kept : Option Bytes) : EndsWith look (m.keepOutput id kept) problem front id
      { last with output := kept.elim last.output (look ∘ some) } := by
  cases kept with
  | none => exact h
  | some bytes =>
    obtain ⟨tests, test, hcurrent, rfl, rfl, rfl⟩ := h
    refine ⟨tests, test, hcurrent, rfl, List.map_congr_left fun found hfound => ?_, ?_⟩
    · simp only [row, Memory.keepOutput,
        Table.get?_insert_of_ne _ _ (EndsWith.ne hwf hcurrent found hfound)]
    · simp only [row, Memory.keepOutput, Table.get?_insert_self, Option.elim_some,
        Function.comp_apply]

end Rows

end Memory

namespace View

/-- The live tests of a problem as they are listed. -/
def live (view : View) (problem : Int) : Option (List Test) :=
  (view.tests problem).map fun tests =>
    (tests.filter (!·.orphaned)).mergeSort fun a b => a.visibleId ≤ b.visibleId

/-- What they show with all their data. -/
def rows (view : View) (problem : Int) : Option (List (Row (Option Bytes))) :=
  (view.live problem).map fun tests =>
    tests.map fun test => ⟨test.visibleId, test.score, view.input test.id, view.output test.id⟩

variable {fits : Int → Prop} {read : Problem → Option Problem} {view : View} {m : Memory}
  {problem : Int}

lemma Shows.live (h : view.Shows fits read m) (hproblem : fits problem) :
    view.live problem = some (m.liveTests problem) := by
  rw [View.live, h.tests problem hproblem, Option.map_some, Memory.liveTests]

lemma Shows.rows (h : view.Shows fits read m) (hproblem : fits problem) :
    view.rows problem = some ((m.liveTests problem).map (m.row id)) := by
  rw [View.rows, h.live hproblem, Option.map_some]
  refine congrArg some (List.map_congr_left fun test htest => ?_)
  have hid := h.ids problem test (Memory.mem_allTests_of_mem_liveTests htest)
  rw [h.input _ hid, h.output _ hid]
  rfl

end View
end Judge.Store
