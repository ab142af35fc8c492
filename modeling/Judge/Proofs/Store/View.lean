import Judge.Proofs.Store.Remember

/-!
Opening a store, and what can be read from a store of either kind: the records, all tests and subtasks
of each problem, and the data of each test. Where nothing is below the directory of a store on disk, it
opens as the empty memory, and one that is there already opens as it is. A store on disk that may
refuse calls shows what the memory shows that remembers its calls under the same refusals.
-/

namespace Judge.Store.Disk

open Host (FileTree Location)
open Host.FileTree

variable {root : Root} {tree opened : FileTree} {m : Memory}

/-- Nothing is below the directory of a store, which need not be there itself. -/
def Blank (root : Root) (tree : FileTree) : Prop :=
  ∀ names, names ≠ [] → tree.lookup (root.location ++ names) = none

/-- Opening a store makes two directories, one after the other. -/
lemma makes_of_openStore (h : runOn (openStore root) tree = (.ok (), opened)) :
    ∃ made, tree.makeDirectories (root.location ++ ["problems"]) = .ok made ∧
      made.makeDirectories (root.location ++ ["tests"]) = .ok opened := by
  simp only [openStore, List.forIn_cons, List.forIn_nil, bind_assoc, pure_bind] at h
  cases hmade : tree.makeDirectories (root.place ["problems"]).location with
  | error cause =>
    rw [runOn_bind_of_error (runOn_change_of_error hmade _)] at h
    simp at h
  | ok made =>
    rw [runOn_bind_of_ok (runOn_change_of_ok hmade _)] at h
    cases hopened : made.makeDirectories (root.place ["tests"]).location with
    | error cause =>
      rw [runOn_bind_of_error (runOn_change_of_error hopened _)] at h
      simp at h
    | ok last =>
      rw [runOn_bind_of_ok (runOn_change_of_ok hopened _), runOn_pure] at h
      exact ⟨made, hmade, hopened.trans (congrArg Except.ok (Prod.mk.inj h).2)⟩

/-- A store that was opened where nothing was is empty. -/
theorem stores_empty (hblank : Blank root tree)
    (h : runOn (openStore root) tree = (.ok (), opened)) : Stores root opened {} := by
  obtain ⟨made, hmade, hopened⟩ := makes_of_openStore h
  obtain ⟨hreached, hkeeps, hsame⟩ := reached_of_makeDirectories hmade
  obtain ⟨hreached', hkeeps', hsame'⟩ := reached_of_makeDirectories hopened
  -- The two directories are all that there is below the directory of the store.
  have hnone : ∀ names, ¬ names <+: ["problems"] → ¬ names <+: ["tests"] →
      opened.lookup (root.location ++ names) = none := by
    intro names hproblems htests
    rw [hsame' _ (by rwa [List.prefix_append_right_inj]),
      hsame _ (by rwa [List.prefix_append_right_inj])]
    exact hblank names fun hnil => hproblems (hnil ▸ List.nil_prefix)
  have hentry : ∀ stays slot, opened.lookup (root.entry stays slot) = none := by
    intro stays slot
    rw [Root.entry, Root.folder, List.append_assoc]
    apply hnone <;> cases slot <;> cases stays <;>
      simp [Slot.folder, Slot.name, List.cons_prefix_cons]
  refine ⟨⟨hreached'.above, hkeeps' _ hreached.isDirectory, hreached'.isDirectory, fun id => .inl ?_,
    fun slot => .inl (hentry true slot), hentry false⟩, fun slot => ?_⟩
  · apply hnone <;> simp [List.cons_prefix_cons]
  · have hcontent : content? opened (root.entry true slot) = none := by
      rw [content?, hentry]
    rw [hcontent]
    cases slot with
    | counter => exact .inl ⟨rfl, rfl⟩
    | tests | subtasks => exact .inl ⟨rfl, rfl⟩
    | problem | input | output => rfl

/-- A directory that an empty tree does not have. -/
def newRoot : Root := ⟨["judge"], "/judge"⟩

/-- The tree after a store was opened there. -/
def newTree : FileTree := (runOn (openStore newRoot) {}).2

lemma blank_newRoot : Blank newRoot {} := by
  intro names hnames
  simp [lookup, newRoot]

lemma openStore_newRoot : runOn (openStore newRoot) {} = (.ok (), newTree) := by
  have hok : (runOn (openStore newRoot) {}).1 = .ok () := by decide +kernel
  exact Prod.ext hok rfl

/-- A store is open: its two directories are there. -/
structure Opened (root : Root) (tree : FileTree) : Prop where
  problems : tree.Reached (root.location ++ ["problems"])
  tests : tree.Reached (root.location ++ ["tests"])

lemma Tidy.isOpened (h : Tidy root tree) : Opened root tree :=
  ⟨h.reached_problems, h.reached_tests⟩

lemma opened_of_openStore (h : runOn (openStore root) tree = (.ok (), opened)) :
    Opened root opened := by
  obtain ⟨made, hmade, hopened⟩ := makes_of_openStore h
  obtain ⟨hreached, -, -⟩ := reached_of_makeDirectories hmade
  obtain ⟨hreached', hkeeps, -⟩ := reached_of_makeDirectories hopened
  exact ⟨checkThrough_mono hkeeps hreached, hreached'⟩

/-- Opening a store that is open changes nothing. -/
theorem Opened.openStore (h : Opened root tree) :
    runOn (Disk.openStore root) tree = (.ok (), tree) := by
  have hmade : ∀ name, tree.Reached (root.location ++ [name]) →
      runOn (change (·.makeDirectories (root.place [name]).location) fun _ =>
        .cannotCreate (root.place [name]).shown) tree = (.ok (), tree) := fun name hreached =>
    runOn_change_of_ok hreached.makeDirectories _
  simp only [Disk.openStore, List.forIn_cons, List.forIn_nil, bind_assoc, pure_bind]
  rw [runOn_bind_of_ok (hmade _ h.problems), runOn_bind_of_ok (hmade _ h.tests), runOn_pure]

theorem Tidy.openStore (h : Tidy root tree) : runOn (Disk.openStore root) tree = (.ok (), tree) :=
  h.isOpened.openStore

end Judge.Store.Disk

namespace Judge.Store

open Host (FileTree)

/-- What can be read from a store. -/
structure View where
  record : Int → Option Problem
  /-- Orphaned tests too, in the order of their creation. -/
  tests : Int → Option (List Test)
  subtasks : Int → Option (List Subtask)
  input : Int → Option Bytes
  output : Int → Option Bytes

/-- What a memory shows. -/
def Memory.view (m : Memory) : View where
  record := m.problems.get?
  tests id := some (m.allTests id)
  subtasks id := some (m.allSubtasks id)
  input := m.inputs.get?
  output := m.outputs.get?

/-- What a store on disk shows. -/
def Disk.view (root : Root) (tree : FileTree) : View where
  record id := (runOn (loadProblem root id) tree).1.toOption
  tests id := (runOn (loadTests root id) tree).1.toOption
  subtasks id := (runOn (loadSubtasks root id) tree).1.toOption
  input test := (runOn (openBlob (root.input test)) tree).1.toOption.bind (·.readAll.toOption)
  output test := (runOn (openBlob (root.output test)) tree).1.toOption.bind (·.readAll.toOption)

/-- A view shows a memory, as far as numbers fit and up to how a record is read. -/
structure View.Shows (fits : Int → Prop) (read : Problem → Option Problem) (view : View)
    (m : Memory) : Prop where
  record : ∀ id, fits id → view.record id = (m.problems.get? id).bind read
  tests : ∀ id, fits id → view.tests id = some (m.allTests id)
  subtasks : ∀ id, fits id → view.subtasks id = some (m.allSubtasks id)
  input : ∀ test, fits test → view.input test = m.inputs.get? test
  output : ∀ test, fits test → view.output test = m.outputs.get? test
  ids : ∀ id, ∀ test ∈ m.allTests id, fits test.id

theorem Memory.shows_view (m : Memory) : m.view.Shows (fun _ => True) some m where
  record _ _ := (Option.bind_fun_some _).symm
  tests _ _ := rfl
  subtasks _ _ := rfl
  input _ _ := rfl
  output _ _ := rfl
  ids _ _ _ := trivial

namespace Disk

variable {root : Root} {tree : FileTree} {m : Memory}

lemma bind_readAll_of_alike {answer : Except Error Source} {blobs : Table Bytes} {test : Int}
    (h : Alike answer (Memory.blob blobs test)) :
    answer.toOption.bind (·.readAll.toOption) = blobs.get? test := by
  rw [h, Memory.blob]
  cases blobs.get? test <;> rfl

theorem Stores.shows_view (h : Stores root tree m) (hm : m.Sized) :
    (view root tree).Shows (Decimal.int64.contains · = true) Problem.reread m where
  record _ hid := (h.runOn_loadProblem hid).2
  tests _ hid := by
    simp only [view, h.runOn_loadTests hm hid]
    rfl
  subtasks _ hid := by
    simp only [view, h.runOn_loadSubtasks hm hid]
    rfl
  input _ htest := bind_readAll_of_alike (h.input htest).1
  output _ htest := bind_readAll_of_alike (h.output htest).1
  ids id test htest := (hm.tests id test htest).id

/-! ### Refusals -/

/-- A store on disk that refuses chosen calls. -/
abbrev refusing (root : Root) (refusals : List Refusal) : Handler (Faulty FileTree) :=
  Faulty.handle refusals (handle root)

/-- What is remembered of it. -/
abbrev remembering (refusals : List Refusal) : Handler (Faulty Memory) :=
  Faulty.handle refusals remember

/-- A store on disk that stores what a memory holds, after calls of the same names. -/
structure Matches (root : Root) (s : Faulty FileTree) (t : Faulty Memory) : Prop where
  calls : s.calls = t.calls
  stores : Stores root s.store t.store
  wellFormed : t.store.WellFormed
  sized : t.store.Sized

variable {refusals : List Refusal} {s : Faulty FileTree} {t : Faulty Memory} {call : Call}

/-- A call is answered as it is remembered, or refused on both sides. -/
theorem Matches.handle (h : Matches root s t) (hcall : call.Sized)
    (hnew : ∀ id, call.newId? (refusing root refusals call s).1 = some id →
      id ≤ Decimal.int64.greatest) :
    Alike (refusing root refusals call s).1 (remembering refusals call t).1 ∧
      Matches root (refusing root refusals call s).2 (remembering refusals call t).2 := by
  have hcount : s.count call.name = t.count call.name := by
    rw [Faulty.count, Faulty.count, h.calls]
  have hcalls : call.name :: s.calls = call.name :: t.calls := by rw [h.calls]
  simp only [refusing, remembering, Faulty.handle, hcount] at hnew ⊢
  by_cases hrefused :
    (refusals.any fun r => r.name == call.name && r.after == t.count call.name) = true
  · rw [if_pos hrefused, if_pos hrefused]
    exact ⟨rfl, hcalls, h.stores, h.wellFormed, h.sized⟩
  · rw [if_neg hrefused] at hnew
    rw [if_neg hrefused, if_neg hrefused]
    obtain ⟨halike, hstores⟩ := h.stores.simulates h.wellFormed h.sized hcall
    refine ⟨halike, hcalls, hstores, follows_remember.wellFormed h.wellFormed call, ?_⟩
    refine sized_remember h.sized h.wellFormed hcall ?_
    obtain ⟨-, -, hlast⟩ := remember_records call t.store
    rw [hlast]
    refine lastId_le_of_newId h.sized.lastId.2 fun id hid => hnew id ?_
    rw [newId?_congr halike, newId?_remember]
    exact hid

/-- So are calls one after the other. -/
theorem Matches.after {calls : List Call} (h : Matches root s t)
    (hcalls : ∀ call ∈ calls, call.Sized)
    (hids : ∀ id ∈ Handler.assigned (refusing root refusals) calls s,
      id ≤ Decimal.int64.greatest) :
    Matches root (Handler.after (refusing root refusals) calls s)
        (Handler.after (remembering refusals) calls t) ∧
      Handler.assigned (remembering refusals) calls t =
        Handler.assigned (refusing root refusals) calls s := by
  induction calls generalizing s t with
  | nil => exact ⟨h, rfl⟩
  | cons call calls ih =>
    simp only [Handler.assigned, List.forall_mem_append, Option.mem_toList] at hids
    obtain ⟨halike, hnext⟩ := h.handle (hcalls call (by simp)) hids.1
    obtain ⟨hlast, hsame⟩ := ih hnext (fun c hc => hcalls c (by simp [hc])) hids.2
    refine ⟨hlast, ?_⟩
    rw [Handler.assigned, hsame, Handler.assigned, newId?_congr halike]

/-- A store that was opened where nothing was matches the empty memory. -/
theorem matches_empty {opened : FileTree} (hblank : Blank root tree)
    (hopen : runOn (openStore root) tree = (.ok (), opened)) :
    Matches root ⟨opened, []⟩ ⟨{}, []⟩ :=
  ⟨rfl, stores_empty hblank hopen, kept_empty.wellFormed, kept_empty.sized⟩

end Disk
end Judge.Store
