import Judge.Proofs.Import.Steps
import Judge.Proofs.Store.Growth

/-!
What the steps of an import do to a store that keeps a memory and may fail any call: the tests come
one by one in the order of their numbers, each with its data before the next one, and the subtasks
in the order of the groups. A failure leaves what was done before it.
-/

namespace Judge.Archive.Import

open Store (Memory MayRefuse)
open Transfer (runOn runOn_bind_ok_iff runOn_bind_error_iff)

/-- A live test of a problem as an archive describes it. -/
structure Described (entries : List Entry) (problem number : Int) (test : Store.Test) : Prop where
  problemId : test.problemId = problem
  visibleId : test.visibleId = number
  score : test.score = Content.score entries number
  live : test.orphaned = false

/-- Such a test with all its data in a memory: the bytes of the one entry for each part. -/
structure Complete (entries : List Entry) (problem : Int) (memory : Memory) (number : Int)
    (test : Store.Test) : Prop extends Described entries problem number test where
  input : ∃ entry, Content.holders entries (.input number) = [entry] ∧
    memory.inputs.get? test.id = some entry.data
  output : ∃ entry, Content.holders entries (.output number) = [entry] ∧
    memory.outputs.get? test.id = some entry.data

/-- A subtask as a group describes it: it lists the live tests that have the numbers of the group,
in the order of the group. -/
structure Grouped (problem : Int) (live : List Store.Test) (group : Int × Group)
    (subtask : Store.Subtask) : Prop where
  problemId : subtask.problemId = problem
  visibleId : subtask.visibleId = group.1
  score : subtask.score = group.2.score
  tests : List.Forall₂ (fun number id => ∃ test ∈ live, test.visibleId = number ∧ test.id = id)
    group.2.tests subtask.tests

/-- The test that an import creates for a number. -/
def newTest (entries : List Entry) (problem number id : Int) : Store.Test :=
  { id, problemId := problem, visibleId := number, score := Content.score entries number }

lemma described_newTest (entries : List Entry) (problem number id : Int) :
    Described entries problem number (newTest entries problem number id) := ⟨rfl, rfl, rfl, rfl⟩

lemma data_of_readAll {entry : Entry} {source : Source} {bytes : Bytes}
    (ho : entry.opened = .ok source) (hread : source.readAll = .ok bytes) : bytes = entry.data := by
  rw [Entry.opened] at ho
  split at ho
  · obtain rfl := Except.ok.inj ho
    exact (Except.ok.inj hread).symm
  · obtain rfl := Except.ok.inj ho
    contradiction
  · contradiction

/-- A complete test stays complete when newer ones come. -/
lemma Complete.mono {entries : List Entry} {problem number : Int} {before after : Memory}
    {test : Store.Test} {new : List Store.Test} (h : Complete entries problem before number test)
    (hadds : before.AddsTests after new) (hid : test.id ≤ before.lastId) :
    Complete entries problem after number test := by
  obtain ⟨input, honly, hinput⟩ := h.input
  obtain ⟨output, honly', houtput⟩ := h.output
  refine { h with input := ⟨input, honly, ?_⟩, output := ⟨output, honly', ?_⟩ }
  · rw [hadds.inputs _ hid, hinput]
  · rw [hadds.outputs _ hid, houtput]

section Run

variable {σ : Type} {handle : Store.Handler σ} {memory : σ → Memory} {entries : List Entry}
  {problem : Int} {s t : σ} {e : Error}

lemma handle_of_request_ok (hm : MayRefuse handle memory) {purpose : Purpose} {call : Store.Call}
    {value : call.Value} (h : runOn handle (Transfer.request purpose call) s = (.ok value, t)) :
    Memory.handle call (memory s) = (.ok value, memory t) := by
  have hcall := Transfer.runOn_request_ok_iff.mp h
  have hanswer := hm.answered call s value (congrArg Prod.fst hcall)
  rwa [hcall] at hanswer

lemma memory_of_request_error (hm : MayRefuse handle memory) {purpose : Purpose} {call : Store.Call}
    (h : runOn handle (Transfer.request purpose call) s = (.error e, t)) :
    memory t = memory s ∧ ∃ cause, e = .store purpose cause := by
  obtain ⟨cause, hcall, rfl⟩ := Transfer.runOn_request_error_iff.mp h
  have hsame := hm.refused call s cause (congrArg Prod.fst hcall)
  rw [hcall] at hsame
  exact ⟨hsame, cause, rfl⟩

/-- A save that succeeds puts all that the stream delivers under the id. -/
lemma handle_saveInput_ok {a b : Memory} {id : Int} {source : Source}
    (h : Memory.handle (.saveInput id source) a = (.ok (), b)) :
    ∃ bytes, source.readAll = .ok bytes ∧ b = { a with inputs := a.inputs.insert id bytes } := by
  simp only [Memory.handle] at h
  split at h
  · next bytes hread => exact ⟨bytes, hread, (Prod.mk.inj h).2.symm⟩
  · simp at h

lemma handle_saveOutput_ok {a b : Memory} {id : Int} {source : Source}
    (h : Memory.handle (.saveOutput id source) a = (.ok (), b)) :
    ∃ bytes, source.readAll = .ok bytes ∧ b = { a with outputs := a.outputs.insert id bytes } := by
  simp only [Memory.handle] at h
  split at h
  · next bytes hread => exact ⟨bytes, hread, (Prod.mk.inj h).2.symm⟩
  · simp at h

/-- A test that was created comes behind the others. -/
lemma addsTests_of_request (hm : MayRefuse handle memory) (hs : (memory s).WellFormed)
    {number id : Int}
    (h : runOn handle (Transfer.request .createTest (.createTest
      { problemId := problem, visibleId := number, score := Content.score entries number })) s =
        (.ok id, t)) :
    (memory s).AddsTests (memory t) [newTest entries problem number id] ∧
      (memory s).lastId < id := by
  obtain ⟨hid, ht⟩ := Prod.mk.inj (handle_of_request_ok hm h)
  obtain rfl := Except.ok.inj hid
  rw [← ht]
  exact ⟨Memory.addsTests_createTest hs _, Int.lt_succ _⟩

/-- A test that was stored is new and complete. -/
theorem storeTest_ok (hm : MayRefuse handle memory) (hs : (memory s).WellFormed) {number id : Int}
    {input output : Source} (hdata : Data entries number input output)
    (h : runOn handle (storeTest problem number (Content.score entries number) input output) s =
      (.ok id, t)) :
    (memory s).AddsTests (memory t) [newTest entries problem number id] ∧
      Complete entries problem (memory t) number (newTest entries problem number id) := by
  obtain ⟨new, u, hcreate, h⟩ := runOn_bind_ok_iff.mp h
  obtain ⟨hadds, hid⟩ := addsTests_of_request hm hs hcreate
  obtain ⟨_, v, hin, h⟩ := runOn_bind_ok_iff.mp h
  obtain ⟨inputBytes, hreadIn, hv⟩ := handle_saveInput_ok (handle_of_request_ok hm hin)
  obtain ⟨_, w, hout, h⟩ := runOn_bind_ok_iff.mp h
  obtain ⟨outputBytes, hreadOut, hw⟩ := handle_saveOutput_ok (handle_of_request_ok hm hout)
  obtain ⟨rfl, rfl⟩ : new = id ∧ w = t := by simpa using h
  obtain ⟨entry, honly, ho⟩ := hdata.inputHolder
  obtain ⟨entry', honly', ho'⟩ := hdata.outputHolder
  rw [hw, hv]
  refine ⟨(hadds.insert_input hid _).insert_output hid _, described_newTest .., ?_, ?_⟩
  · refine ⟨entry, honly, ?_⟩
    rw [← data_of_readAll ho hreadIn]
    exact Table.get?_insert_self ..
  · refine ⟨entry', honly', ?_⟩
    rw [← data_of_readAll ho' hreadOut]
    exact Table.get?_insert_self ..

/-- Storing a test that fails leaves nothing or the test with a part of its data. -/
theorem storeTest_error (hm : MayRefuse handle memory) (hs : (memory s).WellFormed) {number : Int}
    {input output : Source}
    (h : runOn handle (storeTest problem number (Content.score entries number) input output) s =
      (.error e, t)) :
    memory t = memory s ∨
      ∃ id, (memory s).AddsTests (memory t) [newTest entries problem number id] := by
  rcases runOn_bind_error_iff.mp h with h | ⟨id, u, hcreate, h⟩
  · exact .inl (memory_of_request_error hm h).1
  obtain ⟨hadds, hid⟩ := addsTests_of_request hm hs hcreate
  refine .inr ⟨id, ?_⟩
  rcases runOn_bind_error_iff.mp h with h | ⟨_, v, hin, h⟩
  · rwa [(memory_of_request_error hm h).1]
  obtain ⟨bytes, -, hv⟩ := handle_saveInput_ok (handle_of_request_ok hm hin)
  have hadds := hadds.insert_input hid bytes
  rw [← hv] at hadds
  rcases runOn_bind_error_iff.mp h with h | ⟨_, w, hout, h⟩
  · rwa [(memory_of_request_error hm h).1]
  · simp at h

/-- Tests that were all created are complete, in the order of their numbers. -/
theorem createTests_ok (hm : MayRefuse handle memory) {numbers : List Int}
    (hready : ∀ number ∈ numbers, ∃ input output, Ready entries number input output)
    (hs : (memory s).WellFormed) {created : List (Int × Int)}
    (h : runOn handle (createTests entries problem
      (numbers.map fun number => (number, Content.files entries number))) s = (.ok created, t)) :
    ∃ new, (memory s).AddsTests (memory t) new ∧
      List.Forall₂ (Complete entries problem (memory t)) numbers new ∧
      created = new.map fun test => (test.visibleId, test.id) := by
  induction numbers generalizing s created with
  | nil =>
    obtain ⟨rfl, rfl⟩ : [] = created ∧ s = t := by simpa [createTests] using h
    exact ⟨[], .refl _, .nil, rfl⟩
  | cons number numbers ih =>
    obtain ⟨input, output, hnumber⟩ := hready number (by simp)
    rw [List.map_cons, createTests_cons hnumber] at h
    obtain ⟨id, u, hfirst, h⟩ := runOn_bind_ok_iff.mp h
    obtain ⟨rest, v, hrest, h⟩ := runOn_bind_ok_iff.mp h
    obtain ⟨rfl, rfl⟩ : (number, id) :: rest = created ∧ v = t := by simpa using h
    obtain ⟨hadds, hcomplete⟩ := storeTest_ok hm hs hnumber.toData hfirst
    obtain ⟨new, haddsRest, hall, rfl⟩ :=
      ih (fun n hn => hready n (by simp [hn])) (hadds.wellFormed hs) hrest
    refine ⟨newTest entries problem number id :: new, hadds.trans haddsRest, .cons ?_ hall, rfl⟩
    exact hcomplete.mono haddsRest (hadds.fresh _ (by simp)).2

/-- When creating tests fails, those for the first numbers are there, and all of these but the last
one are complete. -/
theorem createTests_error (hm : MayRefuse handle memory) {numbers : List Int}
    (hready : ∀ number ∈ numbers, ∃ input output, Ready entries number input output)
    (hs : (memory s).WellFormed)
    (h : runOn handle (createTests entries problem
      (numbers.map fun number => (number, Content.files entries number))) s = (.error e, t)) :
    ∃ new, (memory s).AddsTests (memory t) new ∧ new.length ≤ numbers.length ∧
      List.Forall₂ (Described entries problem) (numbers.take new.length) new ∧
      List.Forall₂ (Complete entries problem (memory t)) (numbers.take (new.length - 1))
        (new.take (new.length - 1)) := by
  induction numbers generalizing s with
  | nil => simp [createTests] at h
  | cons number numbers ih =>
    obtain ⟨input, output, hnumber⟩ := hready number (by simp)
    rw [List.map_cons, createTests_cons hnumber] at h
    rcases runOn_bind_error_iff.mp h with h | ⟨id, u, hfirst, h⟩
    · rcases storeTest_error hm hs h with hsame | ⟨id, hadds⟩
      · exact ⟨[], hsame ▸ .refl _, by simp, .nil, .nil⟩
      · exact ⟨_, hadds, by simp, .cons (described_newTest ..) .nil, .nil⟩
    obtain ⟨hadds, hcomplete⟩ := storeTest_ok hm hs hnumber.toData hfirst
    rcases runOn_bind_error_iff.mp h with h | ⟨rest, v, hrest, h⟩
    · obtain ⟨new, haddsRest, hlength, hdescribed, hall⟩ :=
        ih (fun n hn => hready n (by simp [hn])) (hadds.wellFormed hs) h
      refine ⟨newTest entries problem number id :: new, hadds.trans haddsRest,
        by simpa using hlength, .cons (described_newTest ..) hdescribed, ?_⟩
      -- The first test counts as complete as soon as another one comes after it.
      have hcomplete := hcomplete.mono haddsRest (hadds.fresh _ (by simp)).2
      cases new with
      | nil => exact .nil
      | cons test new => exact .cons hcomplete hall
    · simp at h

lemma exists_of_lookup {live : List Store.Test} {number id : Int}
    (h : (live.map fun test => (test.visibleId, test.id)).lookup number = some id) :
    ∃ test ∈ live, test.visibleId = number ∧ test.id = id := by
  obtain ⟨front, rest, hlive, -⟩ := List.lookup_eq_some_iff.mp h
  have hmem : (number, id) ∈ live.map fun test => (test.visibleId, test.id) := by simp [hlive]
  obtain ⟨test, htest, heq⟩ := List.mem_map.mp hmem
  exact ⟨test, htest, (Prod.mk.inj heq).1, (Prod.mk.inj heq).2⟩

/-- Creating subtasks creates them for the first groups, and for all groups if it succeeds. -/
theorem createSubtasks_run (hm : MayRefuse handle memory) {live : List Store.Test}
    {groups : List (Int × Group)}
    (hgroups : ∀ g ∈ groups, ∀ number ∈ g.2.tests, ∃ test ∈ live, test.visibleId = number)
    (hs : (memory s).WellFormed) {result : Except Error Unit}
    (h : runOn handle (createSubtasks (live.map fun test => (test.visibleId, test.id)) problem
      groups) s = (result, t)) :
    ∃ new, (memory s).AddsSubtasks (memory t) new ∧ new.length ≤ groups.length ∧
      List.Forall₂ (Grouped problem live) (groups.take new.length) new ∧
      (result = .ok () → new.length = groups.length) := by
  induction groups generalizing s with
  | nil =>
    obtain ⟨rfl, rfl⟩ : .ok () = result ∧ s = t := by simpa [createSubtasks] using h
    exact ⟨[], .refl _, by simp, .nil, fun _ => rfl⟩
  | cons g groups ih =>
    obtain ⟨position, group⟩ := g
    have hknown : ∀ number ∈ group.tests,
        number ∈ (live.map fun test => (test.visibleId, test.id)).map (·.1) := by
      intro number hnumber
      obtain ⟨test, htest, rfl⟩ := hgroups (position, group) (by simp) number hnumber
      exact List.mem_map.mpr ⟨_, List.mem_map_of_mem htest, rfl⟩
    obtain ⟨ids, hids, hall⟩ := resolveTests_ok hknown
    let subtask : Store.Subtask :=
      { problemId := problem, visibleId := position, score := group.score, tests := ids }
    rw [createSubtasks_cons hids, Transfer.runOn_bind] at h
    rcases hrequest : runOn handle
      (Transfer.request .createSubtask (.createSubtask subtask)) s with ⟨cause | id, u⟩
    · simp only [subtask, hrequest] at h
      obtain ⟨rfl, rfl⟩ : .error cause = result ∧ u = t := by simpa using h
      have hsame := (memory_of_request_error hm hrequest).1
      exact ⟨[], hsame ▸ .refl _, by simp, .nil, by simp⟩
    · simp only [subtask, hrequest] at h
      obtain ⟨-, hu⟩ := Prod.mk.inj (handle_of_request_ok hm hrequest)
      have hadds := Memory.addsSubtasks_createSubtask hs subtask
      rw [show (memory s).createSubtask subtask = memory u from hu] at hadds
      obtain ⟨new, haddsRest, hlength, hgrouped, hok⟩ :=
        ih (fun g hg => hgroups g (by simp [hg])) (hadds.wellFormed hs) h
      refine ⟨_, hadds.trans haddsRest, by simpa using hlength, ?_, by simpa using hok⟩
      refine .cons ⟨rfl, rfl, rfl, ?_⟩ hgrouped
      exact hall.imp fun number id => exists_of_lookup

/-- Changing the problem changes its record as the settings of the archive say, or fails and
changes nothing. -/
theorem updateProblem_run (hm : MayRefuse handle memory) {properties : Properties}
    (hsettings : Content.settings entries = some properties) {result : Except Error Bool}
    (h : runOn handle (updateProblem problem properties.toUpdate) s = (result, t)) :
    ((∃ e, result = .error e) ∧ memory t = memory s) ∨
      result = .ok (!properties.toUpdate.isEmpty) ∧
        (memory s).EditsProblem (memory t) problem (Content.record entries) := by
  have hrecord : Content.record entries = fun record => record.apply properties.toUpdate := by
    funext record
    simp only [Content.record, hsettings]
    rfl
  rw [hrecord]
  rw [updateProblem] at h
  split at h
  · next hempty =>
    obtain ⟨rfl, rfl⟩ : .ok false = result ∧ s = t := by simpa using h
    refine .inr ⟨by simp [hempty], .refl _ _ fun record => ?_⟩
    have : properties.toUpdate = {} := by simpa [Store.ProblemUpdate.isEmpty] using hempty
    rw [this]
    rfl
  · next hempty =>
    rw [Transfer.runOn_bind] at h
    rcases hrequest : runOn handle (Transfer.request .updateProblem
      (.updateProblem problem properties.toUpdate)) s with ⟨cause | _, u⟩
    · rw [hrequest] at h
      obtain ⟨rfl, rfl⟩ : .error cause = result ∧ u = t := by simpa using h
      exact .inl ⟨⟨_, rfl⟩, (memory_of_request_error hm hrequest).1⟩
    · rw [hrequest] at h
      obtain ⟨rfl, rfl⟩ : .ok true = result ∧ u = t := by simpa using h
      refine .inr ⟨by simp [hempty], ?_⟩
      have hu := handle_of_request_ok hm hrequest
      simp only [Memory.handle] at hu
      split at hu
      · next record hget =>
        rw [← (Prod.mk.inj hu).2]
        exact Memory.editsProblem_insert hget fun record => record.apply properties.toUpdate
      · simp at hu

/-- Replacing the subtasks deletes the old ones and creates those of the first groups, or fails
before that and changes nothing. -/
theorem replaceSubtasks_run (hm : MayRefuse handle memory) {live : List Store.Test}
    {groups : Table Group}
    (hgroups : ∀ g ∈ groups.entries, ∀ number ∈ g.2.tests, ∃ test ∈ live, test.visibleId = number)
    (hs : (memory s).WellFormed) {result : Except Error Nat}
    (h : runOn handle (replaceSubtasks (live.map fun test => (test.visibleId, test.id)) problem
      (some groups)) s = (result, t)) :
    ((∃ e, result = .error e) ∧ memory t = memory s) ∨
      ∃ new, ((memory s).deleteSubtasks problem).AddsSubtasks (memory t) new ∧
        new.length ≤ groups.size ∧
        List.Forall₂ (Grouped problem live) (groups.entries.take new.length) new ∧
        ∀ count, result = .ok count → count = groups.size ∧ new.length = groups.size := by
  rw [replaceSubtasks, Transfer.runOn_bind] at h
  rcases hrequest : runOn handle (Transfer.request .deleteSubtasks
    (.deleteSubtasks problem)) s with ⟨cause | _, u⟩
  · rw [hrequest] at h
    obtain ⟨rfl, rfl⟩ : .error cause = result ∧ u = t := by simpa using h
    exact .inl ⟨⟨_, rfl⟩, (memory_of_request_error hm hrequest).1⟩
  · rw [hrequest] at h
    obtain ⟨-, hu⟩ := Prod.mk.inj (handle_of_request_ok hm hrequest)
    have hwf : (memory u).WellFormed := by
      rw [← hu]
      exact Memory.wellFormed_handle hs (.deleteSubtasks problem)
    simp only [Transfer.runOn_bind] at h
    rcases hcreate : runOn handle (createSubtasks
      (live.map fun test => (test.visibleId, test.id)) problem groups.entries) u with ⟨created, v⟩
    obtain ⟨new, hadds, hlength, hgrouped, hok⟩ := createSubtasks_run hm hgroups hwf hcreate
    rw [hcreate] at h
    rw [show (memory s).deleteSubtasks problem = memory u from hu]
    cases created with
    | error cause =>
      obtain ⟨rfl, rfl⟩ : .error cause = result ∧ v = t := by simpa using h
      exact .inr ⟨new, hadds, hlength, hgrouped, by simp⟩
    | ok =>
      obtain ⟨rfl, rfl⟩ : .ok groups.size = result ∧ v = t := by simpa using h
      refine .inr ⟨new, hadds, hlength, hgrouped, fun count hcount => ?_⟩
      exact ⟨(Except.ok.inj hcount).symm, hok rfl⟩

end Run

end Judge.Archive.Import
