import Judge.Proofs.Store.Disk
import Judge.Proofs.Store.Growth
import Judge.Proofs.Store.Record

/-!
A store on disk as a memory. The files of a store say what a memory would hold, and every call does
to the files what it does to that memory, except where a record is not read back as it was written
or a stream ends with a fault. `remember` is the memory with these exceptions.
-/

namespace Judge.Store

open Host (FileTree Location Content)

/-- What a problem is read as after it was written. -/
def Problem.reread (p : Problem) : Option Problem :=
  readRecord? Problem.ofReading (recordText p.toValue)

namespace Memory

/-- The numbers in a memory fit. -/
structure Sized (m : Memory) : Prop where
  tests : ∀ problem, ∀ test ∈ m.allTests problem, test.Sized
  subtasks : ∀ problem, ∀ subtask ∈ m.allSubtasks problem, subtask.Sized
  lastId : 0 ≤ m.lastId ∧ m.lastId ≤ Decimal.int64.greatest

/-- What the file of a slot says, if it is there. -/
def Shows (m : Memory) : Slot → Option Content → Prop
  | .counter, content =>
    m.lastId = 0 ∧ content = none ∨ content = some (.plain (recordText (.int m.lastId)))
  | .problem id, content =>
    content = (m.problems.get? id).map fun p => .plain (recordText p.toValue)
  | .tests id, content => m.allTests id = [] ∧ content = none ∨
    content = some (.plain (recordText (.list ((m.allTests id).map Test.toValue))))
  | .subtasks id, content => m.allSubtasks id = [] ∧ content = none ∨
    content = some (.plain (recordText (.list ((m.allSubtasks id).map Subtask.toValue))))
  | .input test, content => content = (m.inputs.get? test).map .gzip
  | .output test, content => content = (m.outputs.get? test).map .gzip

end Memory

namespace Disk

/-- The files of a store say what a memory holds. -/
structure Stores (root : Root) (tree : FileTree) (m : Memory) : Prop where
  tidy : Tidy root tree
  shows : ∀ slot, m.Shows slot (content? tree (root.entry true slot))

/-- The memory of what is written: a problem is taken as it is read back, and a stream with a fault
leaves what it delivered. -/
def remember : Handler Memory
  | .problem id, m =>
    (match m.problems.get? id with
      | none => .error (.noProblem id)
      | some problem =>
        match problem.reread with
        | none => .error (.corrupt "")
        | some read => .ok read, m)
  | .updateProblem id update, m =>
    match m.problems.get? id with
    | none => (.error (.noProblem id), m)
    | some problem =>
      match problem.reread with
      | none => (.error (.corrupt ""), m)
      | some read => (.ok (), { m with problems := m.problems.insert id (read.apply update) })
  | .saveInput test source, m =>
    (source.readAll.map (fun _ => ()) |>.mapError .io,
      { m with inputs := m.inputs.insert test source.delivered })
  | .saveOutput test source, m =>
    (source.readAll.map (fun _ => ()) |>.mapError .io,
      { m with outputs := m.outputs.insert test source.delivered })
  | call, m => Memory.handle call m

variable {root : Root} {tree changed : FileTree} {m m' : Memory} {slot : Slot}

/-- A change of one slot is a change of the memory that shows in this slot only. -/
lemma Stores.step (h : Stores root tree m) {content : Option Content}
    (hbecomes : Becomes root tree changed slot content) (hslot : m'.Shows slot content)
    (hothers : ∀ other, other ≠ slot → ∀ content, m.Shows other content → m'.Shows other content) :
    Stores root changed m' := by
  refine ⟨hbecomes.tidy, fun other => ?_⟩
  by_cases hsame : other = slot
  · subst hsame
    rw [hbecomes.same]
    exact hslot
  · rw [hbecomes.others other hsame]
    exact hothers other hsame _ (h.shows other)

/-! ### Reading -/

/-- A list that may be missing while it is empty. -/
lemma runOn_readList {α : Type} (hrecord : slot.IsRecord) (h : Tidy root tree) (hfits : slot.Fits)
    {item : Json.Decoder α} {toValue : α → Json.Value} {values : List α}
    (hitems : ∀ value ∈ values, Json.Holds item (toValue value) value)
    (hshows : values = [] ∧ content? tree (root.entry true slot) = none ∨
      content? tree (root.entry true slot) =
        some (.plain (recordText (.list (values.map toValue))))) :
    runOn (do return (← readRecord? (place root slot) (Json.asList item)).getD []) tree =
      (.ok values, tree) := by
  have hread := runOn_readRecord? hrecord h hfits (Json.asList item)
  rcases hshows with ⟨rfl, hcontent⟩ | hcontent
  · rw [hcontent] at hread
    exact runOn_bind_of_ok hread _
  · have htaken := readRecord?_recordText (Json.holds_list hitems)
    rw [hcontent] at hread
    simp only [Content.bytes, htaken] at hread
    exact runOn_bind_of_ok hread _

lemma Stores.runOn_loadTests (h : Stores root tree m) (hm : m.Sized) {problem : Int}
    (hproblem : Decimal.int64.contains problem = true) :
    runOn (loadTests root problem) tree = (.ok (m.allTests problem), tree) :=
  @runOn_readList root tree (.tests problem) Test trivial h.tidy hproblem _ _ _
    (fun test htest => (hm.tests problem test htest).holds) (h.shows (.tests problem))

lemma Stores.runOn_loadSubtasks (h : Stores root tree m) (hm : m.Sized) {problem : Int}
    (hproblem : Decimal.int64.contains problem = true) :
    runOn (loadSubtasks root problem) tree = (.ok (m.allSubtasks problem), tree) :=
  @runOn_readList root tree (.subtasks problem) Subtask trivial h.tidy hproblem _ _ _
    (fun subtask hs => (hm.subtasks problem subtask hs).holds) (h.shows (.subtasks problem))

lemma Stores.runOn_loadProblem (h : Stores root tree m) {id : Int}
    (hid : Decimal.int64.contains id = true) :
    (runOn (loadProblem root id) tree).2 = tree ∧
      (runOn (loadProblem root id) tree).1.toOption =
        (m.problems.get? id).bind Problem.reread := by
  have hread : runOn (readRecord? (root.problem id) Problem.ofReading) tree = _ :=
    @runOn_readRecord? Problem root (.problem id) tree trivial h.tidy hid Problem.ofReading
  have hshows : content? tree (root.entry true (.problem id)) = _ := h.shows (.problem id)
  rw [hshows] at hread
  rw [loadProblem, runOn_bind, hread]
  cases m.problems.get? id with
  | none => exact ⟨rfl, rfl⟩
  | some problem =>
    simp only [Option.map_some, Content.bytes, Option.bind_some, Problem.reread]
    cases Store.readRecord? Problem.ofReading (recordText problem.toValue) with
    | none => exact ⟨rfl, rfl⟩
    | some read => exact ⟨rfl, rfl⟩

/-! ### Assigning ids -/

lemma Stores.runOn_nextId (h : Stores root tree m) (hm : m.Sized) :
    ∃ changed, runOn (nextId root) tree = (.ok (m.lastId + 1), changed) ∧
      Stores root changed { m with lastId := m.lastId + 1 } := by
  have hfits : Slot.counter.Fits := rfl
  have hread : runOn (readRecord? root.counter (Json.asInt Decimal.int64)) tree =
      (.ok (if content? tree (root.entry true .counter) = none then none else some m.lastId),
        tree) := by
    have hread := @runOn_readRecord? Int root .counter tree trivial h.tidy hfits
      (Json.asInt Decimal.int64)
    rcases h.shows .counter with ⟨-, hcontent⟩ | hcontent
    · rw [hcontent] at hread ⊢
      exact hread
    · have hbounds : Decimal.int64.contains m.lastId = true := by
        have hle := hm.lastId
        rw [Decimal.Bounds.contains_iff]
        simp only [Decimal.int64] at hle ⊢
        omega
      rw [hcontent] at hread ⊢
      simp only [Content.bytes, readRecord?_recordText (Json.holds_int hbounds hbounds)] at hread
      exact hread
  have hlast : (if content? tree (root.entry true .counter) = none then none
      else some m.lastId).getD 0 = m.lastId := by
    rcases h.shows .counter with ⟨hzero, hcontent⟩ | hcontent
    · simp [hcontent, hzero]
    · simp [hcontent]
  obtain ⟨changed, hwrite, hbecomes⟩ := @runOn_writeRecord root .counter tree trivial h.tidy hfits
    (.int (m.lastId + 1))
  refine ⟨changed, ?_, h.step hbecomes (.inr rfl) fun other hother content hshows => ?_⟩
  · rw [nextId, runOn_bind_of_ok hread]
    simp only [hlast]
    exact runOn_bind_of_ok hwrite _
  · cases other with
    | counter => exact absurd rfl hother
    | problem | tests | subtasks | input | output => exact hshows

/-! ### Calls -/

/-- What a call does on disk: it answers as a memory does, and leaves what the memory becomes. -/
def Simulates (root : Root) (tree : FileTree) (m : Memory) (call : Call) : Prop :=
  Alike (handle root call tree).1 (remember call m).1 ∧
    Stores root (handle root call tree).2 (remember call m).2

lemma simulates_of_run {call : Call} (answer : call.Answer) (changed : FileTree)
    (hrun : runOn (perform root call) tree = (answer, changed))
    (hanswer : Alike answer (remember call m).1) (hstores : Stores root changed (remember call m).2) :
    Simulates root tree m call := by
  rw [Simulates, handle_eq, hrun]
  exact ⟨hanswer, hstores⟩

/-- A list that gets one more item under the next id. -/
lemma Stores.appendItem {α : Type} (h : Stores root tree m) (hm : m.Sized) (hrecord : slot.IsRecord)
    (hfits : slot.Fits) {load : Action (List α)} {items : List α}
    (hload : runOn load tree = (.ok items, tree)) (item : Int → α) (toValue : α → Json.Value)
    (hslot : m'.Shows slot (some (.plain (recordText (.list
      ((items ++ [item (m.lastId + 1)]).map toValue))))))
    (hothers : ∀ other, other ≠ slot → ∀ content,
      Memory.Shows { m with lastId := m.lastId + 1 } other content → m'.Shows other content) :
    ∃ changed, runOn (do
        let items ← load
        let id ← nextId root
        writeRecord (place root slot) (.list ((items ++ [item id]).map toValue))
        return id) tree = (.ok (m.lastId + 1), changed) ∧ Stores root changed m' := by
  obtain ⟨counted, hcount, hcounted⟩ := h.runOn_nextId hm
  obtain ⟨changed, hwrite, hbecomes⟩ := @runOn_writeRecord root slot counted hrecord hcounted.tidy
    hfits (.list ((items ++ [item (m.lastId + 1)]).map toValue))
  refine ⟨changed, ?_, hcounted.step hbecomes hslot hothers⟩
  rw [runOn_bind_of_ok hload, runOn_bind_of_ok hcount]
  exact runOn_bind_of_ok hwrite _

lemma Stores.createTest (h : Stores root tree m) (hwf : m.WellFormed) (hm : m.Sized) {test : Test}
    (htest : Test.Sized { test with id := 0 }) : Simulates root tree m (.createTest test) := by
  have hproblem : Decimal.int64.contains test.problemId = true := htest.problemId
  have hall : ∀ problem, (m.createTest test).allTests problem = m.allTests problem ++
      [{ test with id := m.lastId + 1 }].filter (·.problemId == problem) :=
    Memory.allTests_of_adds (Memory.addsTests_createTest hwf test)
  have hothers : ∀ other, other ≠ Slot.tests test.problemId → ∀ content,
      Memory.Shows { m with lastId := m.lastId + 1 } other content →
        (m.createTest test).Shows other content := by
    intro other hother content hshows
    cases other with
    | tests problem =>
      have hne : test.problemId ≠ problem := fun heq => hother (by rw [heq])
      have hsame : (m.createTest test).allTests problem = m.allTests problem := by simp [hall, hne]
      simp only [Memory.Shows, hsame]
      exact hshows
    | counter | problem | subtasks | input | output => exact hshows
  obtain ⟨changed, hrun, hstores⟩ := @Stores.appendItem root tree m (m.createTest test)
    (.tests test.problemId) Test h hm trivial hproblem _ _
    (h.runOn_loadTests hm hproblem) (fun id => { test with id := id }) Test.toValue
    (.inr (by simp [hall])) hothers
  exact simulates_of_run (.ok (m.lastId + 1)) changed hrun rfl hstores

lemma Stores.createSubtask (h : Stores root tree m) (hwf : m.WellFormed) (hm : m.Sized)
    {subtask : Subtask} (hs : Subtask.Sized { subtask with id := 0 }) :
    Simulates root tree m (.createSubtask subtask) := by
  have hproblem : Decimal.int64.contains subtask.problemId = true := hs.problemId
  have hall : ∀ problem, (m.createSubtask subtask).allSubtasks problem = m.allSubtasks problem ++
      [{ subtask with id := m.lastId + 1 }].filter (·.problemId == problem) :=
    Memory.allSubtasks_of_adds (Memory.addsSubtasks_createSubtask hwf subtask)
  have hothers : ∀ other, other ≠ Slot.subtasks subtask.problemId → ∀ content,
      Memory.Shows { m with lastId := m.lastId + 1 } other content →
        (m.createSubtask subtask).Shows other content := by
    intro other hother content hshows
    cases other with
    | subtasks problem =>
      have hne : subtask.problemId ≠ problem := fun heq => hother (by rw [heq])
      have hsame : (m.createSubtask subtask).allSubtasks problem = m.allSubtasks problem := by
        simp [hall, hne]
      simp only [Memory.Shows, hsame]
      exact hshows
    | counter | problem | tests | input | output => exact hshows
  obtain ⟨changed, hrun, hstores⟩ := @Stores.appendItem root tree m (m.createSubtask subtask)
    (.subtasks subtask.problemId) Subtask h hm trivial hproblem _ _
    (h.runOn_loadSubtasks hm hproblem) (fun id => { subtask with id := id }) Subtask.toValue
    (.inr (by simp [hall])) hothers
  exact simulates_of_run (.ok (m.lastId + 1)) changed hrun rfl hstores

lemma Stores.orphanTests (h : Stores root tree m) (hm : m.Sized) {problem : Int}
    (hproblem : Decimal.int64.contains problem = true) :
    Simulates root tree m (.orphanTests problem) := by
  obtain ⟨changed, hwrite, hbecomes⟩ := @runOn_writeRecord root (.tests problem) tree trivial
    h.tidy hproblem (.list ((m.orphaned problem).map Test.toValue))
  refine simulates_of_run (.ok ()) changed ?_ rfl
    (h.step hbecomes (.inr ?_) fun other hother content hshows => ?_)
  · rw [perform, runOn_bind_of_ok (h.runOn_loadTests hm hproblem)]
    exact hwrite
  · change _ = some (Content.plain (recordText (.list
      (((m.orphanTests problem).allTests problem).map Test.toValue))))
    rw [Memory.allTests_orphanTests]
  · cases other with
    | tests id =>
      have hne : id ≠ problem := fun heq => hother (by rw [heq])
      have hsame := Memory.allTests_orphanTests_of_ne m hne
      simp only [Memory.Shows, remember, Memory.handle, hsame]
      exact hshows
    | counter | problem | subtasks | input | output => exact hshows

lemma Stores.deleteSubtasks (h : Stores root tree m) {problem : Int}
    (hproblem : Decimal.int64.contains problem = true) :
    Simulates root tree m (.deleteSubtasks problem) := by
  obtain ⟨changed, hwrite, hbecomes⟩ := @runOn_writeRecord root (.subtasks problem) tree trivial
    h.tidy hproblem (.list [])
  refine simulates_of_run (.ok ()) changed hwrite rfl
    (h.step hbecomes (.inr ?_) fun other hother content hshows => ?_)
  · change _ = some (Content.plain (recordText (.list
      (((m.deleteSubtasks problem).allSubtasks problem).map Subtask.toValue))))
    rw [Memory.allSubtasks_deleteSubtasks]
    rfl
  · cases other with
    | subtasks id =>
      have hne : id ≠ problem := fun heq => hother (by rw [heq])
      have hsame := Memory.allSubtasks_deleteSubtasks_of_ne m hne
      change (m.deleteSubtasks problem).Shows _ _
      simp only [Memory.Shows, hsame]
      exact hshows
    | counter | problem | tests | input | output => exact hshows

/-- A record of a problem is written as it is given. -/
lemma Stores.writeProblem (h : Stores root tree m) {id : Int}
    (hid : Decimal.int64.contains id = true) (record : Problem) :
    ∃ changed, runOn (writeRecord (root.problem id) record.toValue) tree = (.ok (), changed) ∧
      Stores root changed { m with problems := m.problems.insert id record } := by
  obtain ⟨changed, hwrite, hbecomes⟩ := @runOn_writeRecord root (.problem id) tree trivial h.tidy hid
    record.toValue
  refine ⟨changed, hwrite, h.step hbecomes ?_ fun other hother content hshows => ?_⟩
  · simp [Memory.Shows]
  · cases other with
    | problem key =>
      have hne : id ≠ key := fun heq => hother (by rw [heq])
      simp only [Memory.Shows, Table.get?_insert_of_ne _ _ hne]
      exact hshows
    | counter | tests | subtasks | input | output => exact hshows

lemma Stores.saveProblem (h : Stores root tree m) {record : Problem} (hrecord : record.Sized) :
    Simulates root tree m (.saveProblem record) := by
  obtain ⟨changed, hwrite, hstores⟩ := h.writeProblem hrecord.id record
  exact simulates_of_run (.ok ()) changed hwrite rfl hstores

/-- Whether a problem is there and read back decides what is remembered of it. -/
lemma remember_problem (m : Memory) (id : Int) :
    (remember (.problem id) m).1.toOption = (m.problems.get? id).bind Problem.reread ∧
      (remember (.problem id) m).2 = m := by
  rw [remember]
  cases m.problems.get? id with
  | none => exact ⟨rfl, rfl⟩
  | some record =>
    cases hread : record.reread with
    | none => simp [hread, Except.toOption]
    | some read => simp [hread, Except.toOption]

lemma remember_updateProblem_of_none {id : Int} (update : ProblemUpdate)
    (h : (m.problems.get? id).bind Problem.reread = none) :
    (remember (.updateProblem id update) m).1.toOption = none ∧
      (remember (.updateProblem id update) m).2 = m := by
  rw [remember]
  cases hget : m.problems.get? id with
  | none => exact ⟨rfl, rfl⟩
  | some record =>
    rw [hget, Option.bind_some] at h
    simp [h, Except.toOption]

lemma remember_updateProblem_of_some {id : Int} (update : ProblemUpdate) {read : Problem}
    (h : (m.problems.get? id).bind Problem.reread = some read) :
    remember (.updateProblem id update) m =
      (.ok (), { m with problems := m.problems.insert id (read.apply update) }) := by
  obtain ⟨record, hget, hread⟩ := Option.bind_eq_some_iff.mp h
  rw [remember, hget]
  simp only [hread]

lemma Stores.problem (h : Stores root tree m) {id : Int}
    (hid : Decimal.int64.contains id = true) : Simulates root tree m (.problem id) := by
  obtain ⟨hkeep, hload⟩ := h.runOn_loadProblem hid
  obtain ⟨hanswer, hremember⟩ := remember_problem m id
  refine simulates_of_run _ tree (Prod.ext rfl hkeep) ?_ (hremember ▸ h)
  rw [Alike, hanswer]
  exact hload

lemma Stores.updateProblem (h : Stores root tree m) {id : Int}
    (hid : Decimal.int64.contains id = true) (update : ProblemUpdate) :
    Simulates root tree m (.updateProblem id update) := by
  obtain ⟨hkeep, hload⟩ := h.runOn_loadProblem hid
  -- The problem is read back before it is changed, so the change is made to what was read.
  rcases hrun : runOn (loadProblem root id) tree with ⟨cause | read, left⟩
  · rw [hrun] at hkeep hload
    obtain rfl : left = tree := hkeep
    obtain ⟨hanswer, hremember⟩ := remember_updateProblem_of_none update hload.symm
    refine simulates_of_run (.error cause) left (runOn_bind_of_error hrun _) ?_
      (by rw [hremember]; exact h)
    rw [Alike, hanswer]
    rfl
  · rw [hrun] at hkeep hload
    obtain rfl : left = tree := hkeep
    obtain ⟨changed, hwrite, hstores⟩ := h.writeProblem hid (read.apply update)
    have hremember := remember_updateProblem_of_some update hload.symm
    refine simulates_of_run (.ok ()) changed ?_ (by rw [hremember]; rfl)
      (by rw [hremember]; exact hstores)
    rw [perform, runOn_bind_of_ok hrun]
    exact hwrite

lemma Stores.tests (h : Stores root tree m) (hm : m.Sized) {problem : Int}
    (hproblem : Decimal.int64.contains problem = true) :
    Simulates root tree m (.tests problem) :=
  simulates_of_run (.ok (m.liveTests problem)) tree
    (runOn_bind_of_ok (h.runOn_loadTests hm hproblem) _) rfl h

lemma Stores.subtasks (h : Stores root tree m) (hm : m.Sized) {problem : Int}
    (hproblem : Decimal.int64.contains problem = true) :
    Simulates root tree m (.subtasks problem) :=
  simulates_of_run (.ok (m.subtasksOf problem)) tree
    (runOn_bind_of_ok (h.runOn_loadSubtasks hm hproblem) _) rfl h

/-! ### Test data -/

/-- Data is opened as a memory gives it. -/
lemma Stores.openBlob (h : Stores root tree m) (hdata : ¬ slot.IsRecord) (hfits : slot.Fits)
    {blobs : Table Bytes} {test : Int}
    (hshows : content? tree (root.entry true slot) = (blobs.get? test).map .gzip) :
    ∃ answer, runOn (Disk.openBlob (place root slot)) tree = (answer, tree) ∧
      Alike answer (Memory.blob blobs test) := by
  refine ⟨_, runOn_openBlob hdata h.tidy hfits, ?_⟩
  rw [hshows, Memory.blob]
  cases blobs.get? test <;> rfl

lemma Stores.input (h : Stores root tree m) {test : Int}
    (htest : Decimal.int64.contains test = true) : Simulates root tree m (.input test) := by
  obtain ⟨answer, hopen, halike⟩ := @Stores.openBlob root tree m (.input test) h id htest _ _
    (h.shows (.input test))
  exact simulates_of_run answer tree hopen halike h

lemma Stores.output (h : Stores root tree m) {test : Int}
    (htest : Decimal.int64.contains test = true) : Simulates root tree m (.output test) := by
  obtain ⟨answer, hopen, halike⟩ := @Stores.openBlob root tree m (.output test) h id htest _ _
    (h.shows (.output test))
  exact simulates_of_run answer tree hopen halike h

lemma Stores.saveInput (h : Stores root tree m) {test : Int}
    (htest : Decimal.int64.contains test = true) (source : Source) :
    Simulates root tree m (.saveInput test source) := by
  obtain ⟨changed, hwrite, hbecomes⟩ := @runOn_writeBlob root (.input test) tree id h.tidy htest
    source
  refine simulates_of_run _ changed hwrite ?_
    (h.step hbecomes ?_ fun other hother content hshows => ?_)
  · simp only [remember, Source.readAll]
    cases source.fault <;> rfl
  · simp [Memory.Shows, remember]
  · cases other with
    | input key =>
      have hne : test ≠ key := fun heq => hother (by rw [heq])
      simp only [Memory.Shows, remember, Table.get?_insert_of_ne _ _ hne]
      exact hshows
    | counter | problem | tests | subtasks | output => exact hshows

lemma Stores.saveOutput (h : Stores root tree m) {test : Int}
    (htest : Decimal.int64.contains test = true) (source : Source) :
    Simulates root tree m (.saveOutput test source) := by
  obtain ⟨changed, hwrite, hbecomes⟩ := @runOn_writeBlob root (.output test) tree id h.tidy htest
    source
  refine simulates_of_run _ changed hwrite ?_
    (h.step hbecomes ?_ fun other hother content hshows => ?_)
  · simp only [remember, Source.readAll]
    cases source.fault <;> rfl
  · simp [Memory.Shows, remember]
  · cases other with
    | output key =>
      have hne : test ≠ key := fun heq => hother (by rw [heq])
      simp only [Memory.Shows, remember, Table.get?_insert_of_ne _ _ hne]
      exact hshows
    | counter | problem | tests | subtasks | input => exact hshows

lemma Stores.purgeData (h : Stores root tree m) {test : Int}
    (htest : Decimal.int64.contains test = true) : Simulates root tree m (.purgeData test) := by
  obtain ⟨without, hinput, hbecomes⟩ := @runOn_removeIfExists_compressed root (.input test) tree id
    h.tidy htest
  have hwithout : Stores root without { m with inputs := m.inputs.erase test } := by
    refine h.step hbecomes (by simp [Memory.Shows, Table.get?_erase])
      fun other hother content hshows => ?_
    cases other with
    | input key =>
      have hne : test ≠ key := fun heq => hother (by rw [heq])
      simp only [Memory.Shows, Table.get?_erase, if_neg hne]
      exact hshows
    | counter | problem | tests | subtasks | output => exact hshows
  obtain ⟨changed, houtput, hbecomes'⟩ := @runOn_removeIfExists_compressed root (.output test)
    without id hwithout.tidy htest
  refine simulates_of_run (.ok ()) changed ?_ rfl (hwithout.step hbecomes'
    (by simp [Memory.Shows, remember, Memory.handle, Table.get?_erase])
    fun other hother content hshows => ?_)
  -- Four files are removed, of which the two plain ones are never there.
  · have hplain := @runOn_removeIfExists root (.input test) without id hwithout.tidy htest
    have hplain' := @runOn_removeIfExists root (.output test) changed id hbecomes'.tidy htest
    simp only [place] at hinput hplain houtput hplain'
    rw [perform]
    simp only [List.forIn_cons, List.forIn_nil, bind_assoc, pure_bind]
    rw [runOn_bind_of_ok hinput, runOn_bind_of_ok hplain, runOn_bind_of_ok houtput,
      runOn_bind_of_ok hplain', runOn_pure]
  · cases other with
    | output key =>
      have hne : test ≠ key := fun heq => hother (by rw [heq])
      simp only [Memory.Shows, remember, Memory.handle, Table.get?_erase, if_neg hne]
      exact hshows
    | counter | problem | tests | subtasks | input => exact hshows

/-- Every call does on disk what is remembered. -/
theorem Stores.simulates (h : Stores root tree m) (hwf : m.WellFormed) (hm : m.Sized) {call : Call}
    (hcall : call.Sized) : Simulates root tree m call := by
  cases call with
  | problem id => exact h.problem hcall
  | saveProblem record => exact h.saveProblem hcall
  | updateProblem id update => exact h.updateProblem hcall.1 update
  | createTest test => exact h.createTest hwf hm hcall
  | tests id => exact h.tests hm hcall
  | orphanTests id => exact h.orphanTests hm hcall
  | saveInput test source => exact h.saveInput hcall source
  | saveOutput test source => exact h.saveOutput hcall source
  | input test => exact h.input hcall
  | output test => exact h.output hcall
  | purgeData test => exact h.purgeData hcall
  | createSubtask subtask => exact h.createSubtask hwf hm hcall
  | subtasks id => exact h.subtasks hm hcall
  | deleteSubtasks id => exact h.deleteSubtasks hcall

end Disk
end Judge.Store
