import Judge.Proofs.Import.Outcome
import Judge.Proofs.Store.Rows

/-!
What an import leaves of the tests of its problem when other imports make calls between its own. It
follows from the archive and the tests there were, whatever ids the new tests are given.
-/

namespace Judge.Archive.Import

open Store (Memory Row Parts)
open Store.Memory (Clear Concerns EndsWith Faithful SameTests parts)

section Transfers

variable {σ α β : Type} {handle : Store.Handler σ} {shared : Parts handle} {problem : Int} {s : σ}

/-- A program achieves what its second part does, or what is asked of a failure of its first one. -/
lemma achieves_bind (mid : Except Error α → σ → Prop) {first : Transfer α} {next : α → Transfer β}
    {post : Except Error β → σ → Prop} (hs : shared.Sound s)
    (h : shared.Achieves problem mid first.run s)
    (hok : ∀ a t, shared.Sound t → mid (.ok a) t → shared.Achieves problem post (next a).run t)
    (herror : ∀ error t, mid (.error error) t → post (.error error) t) :
    shared.Achieves problem post (first >>= next).run s := by
  refine h.bind hs fun result t ht hdone => ?_
  cases result with
  | ok a => exact hok a t ht (hdone t ht (shared.refl problem t))
  | error error => exact fun u hu hsame => herror error u (hdone u hu hsame)

lemma achieves_request {purpose : Purpose} {call : Store.Call}
    {post : Except Error call.Value → σ → Prop}
    (h : ∀ t, shared.Sound t → shared.Same problem s t → shared.Owns problem call t ∧
      ∀ u, shared.Same problem (handle call t).2 u →
        post ((handle call t).1.mapError (.store purpose)) u) :
    shared.Achieves problem post (Transfer.request purpose call).run s := by
  intro t ht hsame
  obtain ⟨howns, hpost⟩ := h t ht hsame
  exact ⟨howns, fun u _ hother => hpost u hother⟩

lemma achieves_done {result : Except Error α} {post : Except Error α → σ → Prop}
    (h : ∀ t, shared.Same problem s t → post result t) :
    shared.Achieves problem post (.done result) s := fun t _ hsame => h t hsame

end Transfers

variable {δ α β : Type} {look : Option Bytes → δ} {handle : Store.Handler Memory}
  {hf : Faithful handle} {problem : Int} {entries : List Entry}

/-- A program for a problem of which it is known what it appends to the rows of the problem. -/
def Appends (look : Option Bytes → δ) (hf : Faithful handle) (problem : Int) (transfer : Transfer α) :
    Prop :=
  ∃ new, ∀ front m, Clear look m → m.rows look problem = front →
    (parts look hf).Achieves problem (fun _ t => t.rows look problem = front ++ new) transfer.run m

/-- The same of a program that is given the id of a test at their end. -/
def Continues (look : Option Bytes → δ) (hf : Faithful handle) (problem : Int) (last : Row δ)
    (next : Int → Transfer α) : Prop :=
  ∃ new, ∀ front id m, Clear look m → EndsWith look m problem front id last →
    (parts look hf).Achieves problem (fun _ t => t.rows look problem = front ++ new) (next id).run m

lemma appends_ofExcept (result : Except Error α) :
    Appends look hf problem (Transfer.ofExcept result) := by
  refine ⟨[], fun front m _ hrows => achieves_done fun t hsame => ?_⟩
  rw [List.append_nil, ← hrows]
  exact Store.Memory.rows_of_same hsame

lemma continues_done {last : Row δ} (result : Except Error α) :
    Continues look hf problem last fun _ => Transfer.ofExcept result :=
  ⟨[last], fun _ _ _ _ hends => achieves_done fun _ hsame => (hends.of_same hsame).rows⟩

lemma appends_createTest {test : Store.Test} {next : Int → Transfer α}
    (hproblem : test.problemId = problem) (hlive : test.orphaned = false)
    (h : ∀ last, Continues look hf problem last next) :
    Appends look hf problem (Transfer.request .createTest (.createTest test) >>= next) := by
  obtain ⟨new, hnew⟩ := h ⟨test.visibleId, test.score, look none, look none⟩
  refine ⟨new, fun front m hm hrows => achieves_bind (fun result t => ∃ id, result = .ok id ∧
    EndsWith look t problem front id ⟨test.visibleId, test.score, look none, look none⟩) hm ?_ ?_ ?_⟩
  · refine achieves_request fun t ht hsame => ⟨hproblem, fun u hother => ?_⟩
    have hends := Store.Memory.endsWith_createTest ht hproblem hlive
    rw [Store.Memory.rows_of_same hsame, hrows] at hends
    rw [hf.createTest] at hother ⊢
    exact ⟨t.lastId + 1, rfl, hends.of_same hother⟩
  · rintro _ t ht ⟨_, ⟨⟩, hends⟩
    exact hnew front _ t ht hends
  · rintro error t ⟨id, ⟨⟩, -⟩

lemma continues_openData {last : Row δ} {index : Nat} {next : Int → Source → Transfer α}
    (h : ∀ source, Continues look hf problem last fun id => next id source) :
    Continues look hf problem last fun id => openData entries index >>= next id := by
  rw [openData]
  cases (openAt entries index).mapError Error.zip |>.map (·.2) with
  | error cause => exact continues_done (.error cause)
  | ok source => exact h source

/-- A call is made for the last test, which shows something else then, and the program goes on if it
succeeds. -/
lemma continues_save {last : Row δ} (row : Row δ) {purpose : Purpose} {call : Int → Store.Call}
    {next : Int → Transfer α}
    (howns : ∀ id m, (∃ test ∈ m.allTests problem, test.id = id) → Concerns problem (call id) m)
    (hsaves : ∀ front id m, Clear look m → EndsWith look m problem front id last →
      EndsWith look (handle (call id) m).2 problem front id row)
    (hanswer : (∀ id m, ∃ cause, (handle (call id) m).1 = .error cause) ∨
      ∀ id m, ∃ value, (handle (call id) m).1 = .ok value)
    (h : ∀ last, Continues look hf problem last next) :
    Continues look hf problem last fun id =>
      Transfer.request purpose (call id) >>= fun _ => next id := by
  rcases hanswer with hfails | hgives
  · refine ⟨[row], fun front id m hm hends => achieves_bind (fun result t =>
      (∃ error, result = .error error) ∧ t.rows look problem = front ++ [row]) hm ?_ ?_ ?_⟩
    · refine achieves_request fun t ht hsame => ?_
      obtain ⟨cause, hcause⟩ := hfails id t
      have hrow := hsaves front id t ht (hends.of_same hsame)
      refine ⟨howns id t (hends.of_same hsame).mem, fun u hother => ⟨?_, (hrow.of_same hother).rows⟩⟩
      rw [hcause]
      exact ⟨.store purpose cause, rfl⟩
    · rintro _ t _ ⟨⟨error, ⟨⟩⟩, -⟩
    · exact fun _ _ hdone => hdone.2
  · obtain ⟨new, hnew⟩ := h row
    refine ⟨new, fun front id m hm hends => achieves_bind (fun result t =>
      (∃ value, result = .ok value) ∧ EndsWith look t problem front id row) hm ?_ ?_ ?_⟩
    · refine achieves_request fun t ht hsame => ?_
      obtain ⟨value, hvalue⟩ := hgives id t
      have hrow := hsaves front id t ht (hends.of_same hsame)
      refine ⟨howns id t (hends.of_same hsame).mem, fun u hother => ⟨?_, hrow.of_same hother⟩⟩
      rw [hvalue]
      exact ⟨value, rfl⟩
    · exact fun _ t ht hdone => hnew front id t ht hdone.2
    · rintro error t ⟨⟨value, ⟨⟩⟩, -⟩

lemma continues_saveInput {last : Row δ} {source : Source} {next : Int → Transfer α}
    (h : ∀ last, Continues look hf problem last next) :
    Continues look hf problem last fun id =>
      Transfer.request .createInput (.saveInput id source) >>= fun _ => next id := by
  obtain ⟨answer, kept, hsave⟩ := hf.saveInput source
  refine continues_save { last with input := kept.elim last.input (look ∘ some) }
    (fun id m hmem => hmem) (fun front id m hm hends => ?_) ?_ h
  · rw [hsave]
    exact hends.keepInput hm.toWellFormed kept
  · cases answer with
    | error cause => exact .inl fun id m => ⟨cause, congrArg Prod.fst (hsave id m)⟩
    | ok value => exact .inr fun id m => ⟨value, congrArg Prod.fst (hsave id m)⟩

lemma continues_saveOutput {last : Row δ} {source : Source} {next : Int → Transfer α}
    (h : ∀ last, Continues look hf problem last next) :
    Continues look hf problem last fun id =>
      Transfer.request .createOutput (.saveOutput id source) >>= fun _ => next id := by
  obtain ⟨answer, kept, hsave⟩ := hf.saveOutput source
  refine continues_save { last with output := kept.elim last.output (look ∘ some) }
    (fun id m hmem => hmem) (fun front id m hm hends => ?_) ?_ h
  · rw [hsave]
    exact hends.keepOutput hm.toWellFormed kept
  · cases answer with
    | error cause => exact .inl fun id m => ⟨cause, congrArg Prod.fst (hsave id m)⟩
    | ok value => exact .inr fun id m => ⟨value, congrArg Prod.fst (hsave id m)⟩

/-- What comes after the data of a test is appended after it. -/
lemma continues_of_appends {last : Row δ} {next : Int → Transfer α} {rest : Transfer β}
    {finish : Int → β → α} (h : Appends look hf problem rest)
    (hnext : ∀ id, next id = rest >>= fun b => pure (finish id b)) :
    Continues look hf problem last next := by
  obtain ⟨new, hnew⟩ := h
  refine ⟨last :: new, fun front id m hm hends => ?_⟩
  rw [hnext]
  refine achieves_bind _ hm (hnew _ m hm hends.rows) (fun b t _ hdone => ?_) fun _ t hdone => ?_
  · refine achieves_done fun u hsame => ?_
    rw [Store.Memory.rows_of_same hsame, hdone]
    simp
  · simpa using hdone

lemma appends_createTests (hf : Faithful handle) (entries : List Entry) (problem : Int)
    (tests : List (Int × TestFiles)) :
    Appends look hf problem (createTests entries problem tests) := by
  induction tests with
  | nil => exact appends_ofExcept (.ok [])
  | cons test rest ih =>
    obtain ⟨number, files⟩ := test
    unfold createTests
    split
    · refine appends_createTest rfl rfl fun _ => ?_
      refine continues_openData fun input => continues_saveInput fun _ => ?_
      refine continues_openData fun output => continues_saveOutput fun _ => ?_
      exact continues_of_appends ih fun id => rfl
    · exact appends_ofExcept (.error (.missingFile number))

/-- A program for a problem that leaves the rows of the problem as they are. -/
def Keeps (look : Option Bytes → δ) (hf : Faithful handle) (problem : Int) (transfer : Transfer α) :
    Prop :=
  ∀ rows m, Clear look m → m.rows look problem = rows →
    (parts look hf).Achieves problem (fun _ t => t.rows look problem = rows) transfer.run m

lemma keeps_ofExcept (result : Except Error α) :
    Keeps look hf problem (Transfer.ofExcept result) := by
  rintro _ m _ rfl
  exact achieves_done fun t hsame => Store.Memory.rows_of_same hsame

lemma Keeps.bind {first : Transfer α} {next : α → Transfer β} (h : Keeps look hf problem first)
    (hnext : ∀ a, Keeps look hf problem (next a)) : Keeps look hf problem (first >>= next) :=
  fun rows m hm hrows => achieves_bind _ hm (h rows m hm hrows)
    (fun a t ht hdone => hnext a rows t ht hdone) fun _ _ hdone => hdone

lemma keeps_request {purpose : Purpose} {call : Store.Call} (howns : ∀ m, Concerns problem call m)
    (htests : ∀ m, (Memory.handle call m).2.tests = m.tests) (hrefills : call.refills = none) :
    Keeps look hf problem (Transfer.request purpose call) := by
  rintro _ m _ rfl
  refine achieves_request fun t _ hsame => ⟨howns t, fun u hother => ?_⟩
  exact Store.Memory.rows_of_same (hsame.trans
    ((SameTests.of_quiet (hf.touches call t) (htests t) hrefills).trans hother))

lemma keeps_createSubtasks (created : List (Int × Int)) (groups : List (Int × Group)) :
    Keeps look hf problem (createSubtasks created problem groups) := by
  induction groups with
  | nil => exact keeps_ofExcept (.ok ())
  | cons group groups ih =>
    unfold createSubtasks
    refine (keeps_ofExcept _).bind fun tests => .bind ?_ fun _ => ih
    exact keeps_request (fun _ => rfl) (fun _ => rfl) rfl

lemma tests_updateProblem (id : Int) (update : Store.ProblemUpdate) (m : Memory) :
    (Memory.handle (.updateProblem id update) m).2.tests = m.tests := by
  simp only [Memory.handle]
  split <;> rfl

lemma keeps_settle (created : List (Int × Int)) (properties : Option Properties) :
    Keeps look hf problem (settle created problem properties) := by
  cases properties with
  | none => exact keeps_ofExcept (.ok _)
  | some properties =>
    have hupdate : Keeps look hf problem (updateProblem problem properties.toUpdate) := by
      rw [updateProblem]
      split
      · exact keeps_ofExcept (.ok false)
      · refine .bind ?_ fun _ => keeps_ofExcept (.ok true)
        exact keeps_request (fun _ => rfl) (tests_updateProblem _ _) rfl
    have hreplace : Keeps look hf problem (replaceSubtasks created problem properties.subtasks) := by
      cases properties.subtasks with
      | none => exact keeps_ofExcept (.ok 0)
      | some groups =>
        refine .bind ?_ fun _ => (keeps_createSubtasks created groups.entries).bind fun _ =>
          keeps_ofExcept (.ok groups.size)
        exact keeps_request (fun _ => rfl) (fun _ => rfl) rfl
    exact hupdate.bind fun _ => hreplace.bind fun _ => keeps_ofExcept (.ok _)

/-- What an import leaves of the rows of its problem follows from the archive and those that there
were. -/
theorem achieves_importArchive (look : Option Bytes → δ) (hf : Faithful handle)
    (entries : List Entry) (problem : Int) :
    ∃ after : List (Row δ) → List (Row δ), ∀ m, Clear look m →
      (parts look hf).Achieves problem
        (fun _ t => t.rows look problem = after (m.rows look problem))
        (importArchive entries problem).run m := by
  cases hprepare : prepare entries with
  | error error =>
    have hthrow : importArchive entries problem = Transfer.ofExcept (.error error) := by
      rw [importArchive, hprepare]
      rfl
    rw [hthrow]
    exact ⟨id, fun m hm => keeps_ofExcept _ _ m hm rfl⟩
  | ok scan =>
    obtain ⟨new, hnew⟩ := @appends_createTests _ look _ hf entries problem scan.tests.entries
    rw [importArchive_eq_store hprepare, store_eq]
    -- The old tests are orphaned first, and nothing after the new ones changes a test.
    refine ⟨fun _ => new, fun m hm => achieves_bind (fun result t => (∃ value, result = .ok value) ∧
      t.rows look problem = []) hm ?_ ?_ ?_⟩
    · refine achieves_request fun t _ _ => ⟨rfl, fun u hother => ?_⟩
      rw [hf.orphanTests] at hother ⊢
      refine ⟨⟨(), rfl⟩, ?_⟩
      rw [Store.Memory.rows_of_same hother]
      exact Store.Memory.rows_orphanTests t problem
    · rintro _ t ht ⟨-, hnone⟩
      exact achieves_bind _ ht (hnew [] t ht hnone) (fun created u hu hrows =>
        keeps_settle created _ new u hu hrows) fun _ _ hrows => hrows
    · rintro error t ⟨⟨value, ⟨⟩⟩, -⟩

end Judge.Archive.Import
