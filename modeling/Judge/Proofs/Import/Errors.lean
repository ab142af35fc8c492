import Judge.Proofs.Import.Steps

/-!
The errors of an import. Whatever is wrong with the archive itself is found before the first store
call, whatever store it is and however its calls fail; from that call on only the store can fail.
-/

namespace Judge.Archive

open Transfer (runOn runOn_bind_ok_iff runOn_bind_error_iff isStore_of_request)

/-- An error that is found in the archive itself. -/
def Error.IsStructural : Error → Prop
  | .unknownSubtaskTest _ | .store _ _ => False
  | _ => True

namespace Scan

lemma isStructural_of_readScoreLines {fault : Option IoError} {scan : Scan} {text : List Bytes}
    {e : Error} (h : (readScoreLines fault scan text).2 = some e) : e.IsStructural := by
  induction text generalizing scan with
  | nil =>
    obtain ⟨cause, -, rfl⟩ := Option.map_eq_some_iff.mp h
    trivial
  | cons line text ih =>
    cases hd : Utf8.decode? line with
    | none =>
      rw [readScoreLines_badText hd] at h
      obtain rfl := Option.some.inj h
      trivial
    | some chars =>
      cases hs : scoreLine? chars with
      | none => exact ih (by rwa [readScoreLines_skip hd hs] at h)
      | some p =>
        obtain ⟨number, score⟩ := p
        by_cases hn : number ∈ scan.scored
        · rw [readScoreLines_twice hd hs hn] at h
          obtain rfl := Option.some.inj h
          trivial
        · exact ih (by rwa [readScoreLines_score hd hs hn] at h)

lemma isStructural_of_readEntry {scan : Scan} {entries : List Entry} {index : Nat} {e : Error}
    (h : (scan.readEntry entries index).2 = some e) : e.IsStructural := by
  simp only [readEntry] at h
  split at h
  · obtain rfl := Option.some.inj h
    trivial
  · split at h
    · contradiction
    · split at h
      · exact isStructural_of_readScoreLines h
      · simp only [readProperties] at h
        split at h
        · obtain rfl := Option.some.inj h
          trivial
        · split at h
          · obtain rfl := Option.some.inj h
            trivial
          · contradiction
      · simp only [addInput] at h
        split at h
        · obtain rfl := Option.some.inj h
          trivial
        · contradiction
      · simp only [addOutput] at h
        split at h
        · obtain rfl := Option.some.inj h
          trivial
        · contradiction
      · contradiction

lemma isStructural_of_readEntries {scan : Scan} {entries : List Entry} {indices : List Nat}
    {e : Error} (h : (readEntries entries scan indices).2 = some e) : e.IsStructural := by
  induction indices generalizing scan with
  | nil => contradiction
  | cons index indices ih =>
    simp only [readEntries] at h
    split at h
    · next next error hread =>
      obtain rfl := Option.some.inj h
      exact isStructural_of_readEntry (by rw [hread])
    · exact ih h

lemma isStructural_of_validate {scan : Scan} {e : Error} (h : scan.validate = .error e) :
    e.IsStructural := by
  cases hf : scan.tests.entries.find? fun e => e.2.input.isNone || e.2.output.isNone with
  | none =>
    cases hp : scan.properties with
    | none => simp [validate, hp, hf, pure, Except.pure] at h
    | some properties =>
      cases hs : properties.subtasks <;>
        cases ha : properties.subtaskedTests.any fun test => !scan.tests.contains test <;>
        simp [validate, hp, hf, hs, ha, throw, throwThe, MonadExceptOf.throw, bind, Except.bind,
          pure, Except.pure] at h
      subst h
      trivial
  | some missing =>
    cases hp : scan.properties with
    | none =>
      simp [validate, hp, hf, throw, throwThe, MonadExceptOf.throw] at h
      subst h
      trivial
    | some properties =>
      cases hs : properties.subtasks <;>
        cases ha : properties.subtaskedTests.any fun test => !scan.tests.contains test <;>
        simp [validate, hp, hf, hs, ha, throw, throwThe, MonadExceptOf.throw, bind,
          Except.bind] at h <;>
        subst h <;> trivial

end Scan

namespace Import

/-- Preparing an archive finds errors of the archive only. -/
theorem isStructural_of_prepare {entries : List Entry} {e : Error}
    (h : prepare entries = .error e) : e.IsStructural := by
  rcases hread : Scan.readEntries entries {} (List.range entries.length) with ⟨scan, error⟩
  cases error with
  | some error =>
    simp only [prepare, hread, throw, throwThe, MonadExceptOf.throw] at h
    obtain rfl := Except.error.inj h
    exact Scan.isStructural_of_readEntries (by rw [hread])
  | none =>
    cases hvalid : scan.validate with
    | error cause =>
      simp only [prepare, hread, hvalid, bind, Except.bind] at h
      obtain rfl := Except.error.inj h
      exact Scan.isStructural_of_validate hvalid
    | ok => simp [prepare, hread, hvalid, bind, Except.bind, pure, Except.pure] at h

section Run

variable {σ : Type} {handle : Store.Handler σ} {entries : List Entry} {problem : Int}

lemma isStore_of_storeTest {number score : Int} {input output : Source} {s t : σ} {e : Error}
    (h : runOn handle (storeTest problem number score input output) s = (.error e, t)) :
    e.IsStore := by
  rcases runOn_bind_error_iff.mp h with h | ⟨id, u, -, h⟩
  · exact isStore_of_request h
  rcases runOn_bind_error_iff.mp h with h | ⟨-, u, -, h⟩
  · exact isStore_of_request h
  rcases runOn_bind_error_iff.mp h with h | ⟨-, u, -, h⟩
  · exact isStore_of_request h
  · simp at h

/-- Creating tests that are ready fails only in the store, and gives each of them an id. -/
lemma createTests_outcome {numbers : List Int}
    (hready : ∀ number ∈ numbers, ∃ input output, Ready entries number input output) (s : σ) :
    let tests := numbers.map fun number => (number, Content.files entries number)
    (∀ e t, runOn handle (createTests entries problem tests) s = (.error e, t) → e.IsStore) ∧
      ∀ created t, runOn handle (createTests entries problem tests) s = (.ok created, t) →
        created.map (·.1) = numbers := by
  induction numbers generalizing s with
  | nil =>
    constructor
    · intro e t h
      simp [createTests] at h
    · intro created t h
      obtain rfl : [] = created := by simpa [createTests] using congrArg Prod.fst h
      rfl
  | cons number numbers ih =>
    obtain ⟨input, output, hnumber⟩ := hready number (by simp)
    have ih := fun s => ih (fun n hn => hready n (by simp [hn])) s
    simp only [List.map_cons]
    rw [createTests_cons hnumber]
    constructor
    · intro e t h
      rcases runOn_bind_error_iff.mp h with h | ⟨id, u, -, h⟩
      · exact isStore_of_storeTest h
      rcases runOn_bind_error_iff.mp h with h | ⟨created, v, -, h⟩
      · exact (ih u).1 e t h
      · simp at h
    · intro created t h
      obtain ⟨id, u, -, h⟩ := runOn_bind_ok_iff.mp h
      obtain ⟨rest, v, hrest, h⟩ := runOn_bind_ok_iff.mp h
      obtain rfl : (number, id) :: rest = created := by simpa using congrArg Prod.fst h
      rw [List.map_cons, (ih u).2 rest v hrest]

/-- Creating subtasks from groups of created tests fails only in the store. -/
lemma isStore_of_createSubtasks {created : List (Int × Int)} {groups : List (Int × Group)}
    (hgroups : ∀ g ∈ groups, ∀ test ∈ g.2.tests, test ∈ created.map (·.1)) {s t : σ} {e : Error}
    (h : runOn handle (createSubtasks created problem groups) s = (.error e, t)) : e.IsStore := by
  induction groups generalizing s with
  | nil => simp [createSubtasks] at h
  | cons g groups ih =>
    obtain ⟨position, group⟩ := g
    obtain ⟨ids, hids, -⟩ := resolveTests_ok (hgroups (position, group) (by simp))
    rw [createSubtasks_cons hids] at h
    rcases runOn_bind_error_iff.mp h with h | ⟨id, u, -, h⟩
    · exact isStore_of_request h
    · exact ih (fun g hg => hgroups g (by simp [hg])) h

lemma isStore_of_updateProblem {update : Store.ProblemUpdate} {s t : σ} {e : Error}
    (h : runOn handle (updateProblem problem update) s = (.error e, t)) : e.IsStore := by
  rw [updateProblem] at h
  split at h
  · simp at h
  · rcases runOn_bind_error_iff.mp h with h | ⟨-, u, -, h⟩
    · exact isStore_of_request h
    · simp at h

lemma isStore_of_replaceSubtasks {created : List (Int × Int)} {groups : Option (Table Group)}
    (hgroups : ∀ table, groups = some table →
      ∀ g ∈ table.entries, ∀ test ∈ g.2.tests, test ∈ created.map (·.1)) {s t : σ} {e : Error}
    (h : runOn handle (replaceSubtasks created problem groups) s = (.error e, t)) : e.IsStore := by
  cases groups with
  | none => simp [replaceSubtasks] at h
  | some table =>
    rw [replaceSubtasks] at h
    rcases runOn_bind_error_iff.mp h with h | ⟨-, u, -, h⟩
    · exact isStore_of_request h
    rcases runOn_bind_error_iff.mp h with h | ⟨-, v, -, h⟩
    · exact isStore_of_createSubtasks (hgroups table rfl) h
    · simp at h

/-- Whatever an import asks of a store, only the store can refuse. -/
theorem isStore_of_store {scan : Scan} (hprepare : prepare entries = .ok scan) {s t : σ} {e : Error}
    (h : runOn handle (store entries problem scan) s = (.error e, t)) : e.IsStore := by
  have himportable := importable_of_prepare hprepare
  obtain ⟨htests, hsettings⟩ := tests_of_prepare hprepare
  rcases runOn_bind_error_iff.mp h with h | ⟨-, u, -, h⟩
  · exact isStore_of_request h
  have hcreate := @createTests_outcome σ handle entries problem _
    (fun number => ready_of_importable himportable) u
  rw [htests, Content.tests] at h
  rcases runOn_bind_error_iff.mp h with h | ⟨created, v, hcreated, h⟩
  · exact hcreate.1 e t h
  cases hp : scan.properties with
  | none => simp [hp] at h
  | some properties =>
    simp only [hp] at h
    rcases runOn_bind_error_iff.mp h with h | ⟨updated, w, -, h⟩
    · exact isStore_of_updateProblem h
    rcases runOn_bind_error_iff.mp h with h | ⟨count, x, -, h⟩
    · refine isStore_of_replaceSubtasks ?_ h
      -- The created ids are those of all tests of the archive, so no group lists another one.
      intro groups hgroups g hg test htest
      rw [hcreate.2 created v hcreated]
      exact himportable.groups properties (hsettings ▸ hp) test
        (Properties.mem_subtaskedTests.mpr ⟨groups, hgroups, g, hg, htest⟩)
    · simp at h

/-- An error that is not one of the store is found before the first store call, which leaves the
store as it was; after that call only the store can fail, and groups never list an unknown test. -/
theorem importArchive_error (handle : Store.Handler σ) (entries : List Entry) (problem : Int) (s : σ)
    {e : Error} (h : (runOn handle (importArchive entries problem) s).1 = .error e) :
    (¬ e.IsStore → Transfer.calls handle (importArchive entries problem) s = [] ∧
        (runOn handle (importArchive entries problem) s).2 = s) ∧
      (Transfer.calls handle (importArchive entries problem) s ≠ [] → e.IsStore) ∧
      ∀ test, e ≠ .unknownSubtaskTest test := by
  cases hprepare : prepare entries with
  | error cause =>
    have hstop : importArchive entries problem = Transfer.ofExcept (.error cause) := by
      rw [importArchive, hprepare]
      rfl
    rw [hstop] at h ⊢
    obtain rfl : cause = e := by simpa using h
    refine ⟨by simp, by simp, ?_⟩
    rintro test rfl
    exact isStructural_of_prepare hprepare
  | ok scan =>
    have hgo : importArchive entries problem = store entries problem scan := by
      rw [importArchive, hprepare]
      rfl
    rw [hgo] at h ⊢
    have hstore : e.IsStore := isStore_of_store hprepare (Prod.ext h rfl)
    refine ⟨fun hn => absurd hstore hn, fun _ => hstore, ?_⟩
    rintro test rfl
    obtain ⟨purpose, cause, h⟩ := hstore
    contradiction

/-- A test without an output is found out before the store is asked for anything. -/
theorem importArchive_error_of_lone_input :
    (runOn Store.Memory.handle (importArchive [{ name := "1-sum.in", data := [49] }] 1)
        { lastId := 3 }).1 = .error (.missingFile 1) ∧
      (runOn Store.Memory.handle (importArchive [{ name := "1-sum.in", data := [49] }] 1)
        { lastId := 3 }).2 = { lastId := 3 } := by
  have h : (runOn Store.Memory.handle (importArchive [{ name := "1-sum.in", data := [49] }] 1)
      { lastId := 3 }).1 = .error (.missingFile 1) := by decide
  have hnot : ¬ Error.IsStore (.missingFile 1) := by
    rintro ⟨purpose, cause, h⟩
    contradiction
  exact ⟨h, ((importArchive_error _ _ _ _ h).1 hnot).2⟩

end Run

end Import
end Judge.Archive
