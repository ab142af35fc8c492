import Judge.Proofs.Archive.Layout
import Judge.Proofs.Import.Outcome

/-!
An import does not see the layout of an archive: in any other layout the same store calls are made
with the same data, so the store and what the import tells of it are the same.
-/

namespace Judge.Archive.Import

open Store (Memory)
open Transfer (runOn)

variable {a b : List Entry} {problem : Int}

/-- Data that is found in one archive is found in another one that holds the same. -/
lemma Data.of_sameContent {number : Int} {input output : Source} (h : SameContent a b)
    (hdata : Data a number input output) : Data b number input output := by
  obtain ⟨entry, honly, ho⟩ := hdata.inputHolder
  obtain ⟨entry', honly', ho'⟩ := hdata.outputHolder
  obtain ⟨other, hother, hcontent⟩ := h.exists_holder (by simp) honly
  obtain ⟨other', hother', hcontent'⟩ := h.exists_holder (by simp) honly'
  exact ⟨⟨other, hother, (Entry.opened_of_content hcontent).trans ho⟩,
    ⟨other', hother', (Entry.opened_of_content hcontent').trans ho'⟩⟩

lemma Data.unique {number : Int} {input output input' output' : Source}
    (h : Data a number input output) (h' : Data a number input' output') :
    input = input' ∧ output = output' := by
  have hone : ∀ {kind : EntryKind} {source source' : Source},
      (∃ entry, Content.holders a kind = [entry] ∧ entry.opened = .ok source) →
        (∃ entry, Content.holders a kind = [entry] ∧ entry.opened = .ok source') →
          source = source' := by
    rintro kind source source' ⟨entry, honly, ho⟩ ⟨entry', honly', ho'⟩
    obtain rfl : entry = entry' := List.singleton_inj.mp (honly.symm.trans honly')
    exact Except.ok.inj (ho.symm.trans ho')
  exact ⟨hone h.inputHolder h'.inputHolder, hone h.outputHolder h'.outputHolder⟩

lemma createTests_sameContent (h : SameContent a b) (ha : Importable a) (hb : Importable b)
    {numbers : List Int} (hnumbers : ∀ number ∈ numbers, number ∈ Content.testNumbers a) :
    createTests a problem (numbers.map fun number => (number, Content.files a number)) =
      createTests b problem (numbers.map fun number => (number, Content.files b number)) := by
  induction numbers with
  | nil => rfl
  | cons number numbers ih =>
    have hnumber := hnumbers number (by simp)
    obtain ⟨input, output, hready⟩ := ready_of_importable ha hnumber
    rw [h.testNumbers] at hnumber
    obtain ⟨input', output', hready'⟩ := ready_of_importable hb hnumber
    obtain ⟨rfl, rfl⟩ := (hready.toData.of_sameContent h).unique hready'.toData
    rw [List.map_cons, List.map_cons, createTests_cons hready, createTests_cons hready',
      h.score ha.scores, ih fun n hn => hnumbers n (by simp [hn])]

/-- Archives that hold the same are imported by the same program, once they can be imported. -/
theorem importArchive_sameContent (h : SameContent a b)
    (hone : (Content.holders a .properties).length ≤ 1) (ha : Importable a) :
    importArchive a problem = importArchive b problem := by
  have hb := h.importable hone ha
  obtain ⟨scan, hscan, htests, hsettings⟩ := prepare_of_importable ha
  obtain ⟨scan', hscan', htests', hsettings'⟩ := prepare_of_importable hb
  have hcreate : createTests a problem (Content.tests a) = createTests b problem (Content.tests b) := by
    rw [Content.tests, Content.tests, ← h.testNumbers]
    exact createTests_sameContent h ha hb fun _ hn => hn
  rw [importArchive_eq_store hscan, importArchive_eq_store hscan', store_eq, store_eq, htests,
    htests', hsettings, hsettings', hcreate, h.settings hone]

lemma importable_of_importArchive {σ : Type} {handle : Store.Handler σ} {s t : σ} {summary : Summary}
    (h : runOn handle (importArchive a problem) s = (.ok summary, t)) : Importable a := by
  obtain ⟨scan, u, hprepare, -⟩ := Transfer.runOn_bind_ok_iff.mp h
  exact importable_of_prepare (Prod.mk.inj hprepare).1

/-- With the entries of an archive in another layout an import succeeds as before, with the same
summary and the same store afterwards, and fails as before, if no directory is put in front of a
name that is a dot and there is one file of settings at most. -/
theorem importArchive_rearranged {σ : Type} {handle : Store.Handler σ} {s t : σ} {summary : Summary}
    (h : Rearranged (fun name => Path.isHere name = false) a b)
    (hone : (Content.holders a .properties).length ≤ 1) :
    runOn handle (importArchive a problem) s = (.ok summary, t) ↔
      runOn handle (importArchive b problem) s = (.ok summary, t) := by
  have hsame := SameContent.of_rearranged h
  constructor
  · intro hrun
    rwa [← importArchive_sameContent hsame hone (importable_of_importArchive hrun)]
  · intro hrun
    have hone' : (Content.holders b .properties).length ≤ 1 := by
      rwa [← hsame.length_holders (by simp)]
    rwa [← importArchive_sameContent hsame.symm hone' (importable_of_importArchive hrun)]

/-- The two tests in another layout: an output under another ending comes first, and an input is in
a directory and named by the other convention. -/
def twoTestsElsewhere : List Entry := [
  { name := "2-sum.out", data := [52] }, { name := "tests/", data := [] },
  { name := "tests/sum.2.in", data := [51] },
  { name := "1-sum.in", data := [49] }, { name := "1-sum.sol", data := [50] },
  { name := "tests.txt", data := Utf8.encode "2 70".toList },
  { name := "grader.properties", data := Utf8.encode "groups=2;1\nweights=40\ntime=2".toList }]

lemma rearranged_twoTests :
    Rearranged (fun name => Path.isHere name = false) twoTests twoTestsElsewhere := by
  have hbase : ¬ EntryName.StartsNumbered "sum".toList := by
    rintro ⟨digits, rest, hne, hdigits, heq⟩
    obtain ⟨d, digits, rfl⟩ := List.exists_cons_of_ne_nil hne
    have hd := hdigits d (by simp)
    rw [← (List.cons.inj heq).1] at hd
    contradiction
  have hdigits : ∀ c ∈ ['2'], c.isDigit = true := List.forall_mem_singleton.mpr rfl
  have hnumber : EntryName.Rename (fun name => Path.isHere name = false) "2-sum.in".toList
      "sum.2.in".toList :=
    @EntryName.Rename.number _ ['2'] "sum".toList 2 ".in" hdigits (by decide) (by decide) hbase
      (by decide)
  have hfolder : EntryName.Rename (fun name => Path.isHere name = false) "sum.2.in".toList
      "tests/sum.2.in".toList := .folder "tests".toList (by decide)
  have houtput : EntryName.Rename (fun name => Path.isHere name = false) "2-sum.ok".toList
      "2-sum.out".toList :=
    @EntryName.Rename.output _ "2-sum".toList ".ok" ".out" (by decide) (by decide)
  refine .trans (.rename _ hnumber) (.trans (.rename _ hfolder) ?_)
  have hdirectory : ({ name := "tests/", data := [] } : Entry).isDirectory = true := by decide
  refine .trans (.directory _ hdirectory ⟨⟨[], none⟩, rfl⟩) ?_
  have hrenamed : Rearranged (fun name => Path.isHere name = false)
      ({ name := "2-sum.ok", data := [52] } :: twoTestsElsewhere.tail) twoTestsElsewhere :=
    .rename twoTestsElsewhere.tail houtput
  refine .trans (.perm ?_) hrenamed
  decide +kernel

/-- The two tests are imported from the other layout too, with the same result. -/
theorem importArchive_rearranged_twoTests :
    runOn Memory.handle (importArchive twoTestsElsewhere 1) oneProblem =
      runOn Memory.handle (importArchive twoTests 1) oneProblem := by
  have hok : (runOn Memory.handle (importArchive twoTests 1) oneProblem).1 = .ok ⟨2, 1, true⟩ := by
    decide +kernel
  have hone : (Content.holders twoTests .properties).length ≤ 1 := by decide +kernel
  have hrun : runOn Memory.handle (importArchive twoTests 1) oneProblem =
      (.ok ⟨2, 1, true⟩, (runOn Memory.handle (importArchive twoTests 1) oneProblem).2) :=
    Prod.ext hok rfl
  exact ((importArchive_rearranged rearranged_twoTests hone).mp hrun).trans hrun.symm

/-- The output of a test, and data that has no file name of its own or is put into a directory. -/
def oddInput (name : String) : List Entry := [
  { name, data := [49] }, { name := "1-sum.ok", data := [50] }]

/-- A directory in front of a dot gives its name to the dot: an archive that misses the input of a
test gets it in this way. -/
theorem exists_rearranged_dot :
    Rearranged (fun _ => True) (oddInput ".") (oddInput "1-sum.in/.") ∧
      (Content.holders (oddInput ".") .properties).length ≤ 1 ∧
      (Content.holders (oddInput "1-sum.in/.") .properties).length ≤ 1 ∧
      (runOn Memory.handle (importArchive (oddInput ".") 1) oneProblem).1 =
        .error (.missingFile 1) ∧
      (runOn Memory.handle (importArchive (oddInput "1-sum.in/.") 1) oneProblem).1 =
        .ok ⟨1, 0, false⟩ := by
  refine ⟨.rename _ (.folder "1-sum.in".toList trivial), ?_⟩
  decide +kernel

end Judge.Archive.Import
