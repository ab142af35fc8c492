import Mathlib.Data.List.Perm.Subperm
import Mathlib.Logic.Relation
import Judge.Proofs.Archive.Scan
import Judge.Proofs.Basic

/-!
What calls leave of a scan, whether or not they fail. Every call is made of changes of a few kinds,
so that what each of these keeps is kept by all calls: explicit scores belong to known tests, no
test has two, and a test without one has no points. Data that was found stays where it was found.
Inference may come between the calls. It changes scores only, and there always is a test to divide by.
-/

namespace Judge.Archive
namespace Scan

/-- A call that reads into a scan: an entry of an archive, or a score file of its own. -/
inductive Reading where
  | entry (entries : List Entry) (index : Nat)
  | scores (source : Source)

/-- What is known after a call, and its error. -/
def Reading.perform (scan : Scan) : Reading → Scan × Option Error
  | entry entries index => scan.readEntry entries index
  | scores source => scan.readScores source

/-- What is known after calls one by one, each of which may have failed. -/
def afterReadings (scan : Scan) (readings : List Reading) : Scan :=
  readings.foldl (fun scan reading => (reading.perform scan).1) scan

/-- The changes that calls are made of. -/
inductive Change (scan : Scan) : Scan → Prop
  | files (number : Int) (files : TestFiles) (hscore : files.score = (scan.test number).score)
      (hinput : ∀ index, (scan.test number).input = some index → files.input = some index)
      (houtput : ∀ index, (scan.test number).output = some index → files.output = some index) :
      Change scan (scan.setTest number files)
  | score (number score : Int) (hnew : number ∉ scan.scored) :
      Change scan (scan.setScore number score)
  | settings (properties : Properties) :
      Change scan { scan with properties := some properties }

/-- Any number of changes one after the other. -/
abbrev Changes : Scan → Scan → Prop := Relation.ReflTransGen Change

section Steps

variable (scan : Scan)

lemma changes_addInput (number : Int) (index : Nat) :
    Changes scan (scan.addInput number index).1 := by
  cases h : (scan.test number).input with
  | some found =>
    simp only [addInput, h]
    exact .single (.files _ _ rfl (fun _ => id) fun _ => id)
  | none =>
    simp only [addInput, h]
    exact .single (.files _ _ rfl (by simp [h]) fun _ => id)

lemma changes_addOutput (number : Int) (index : Nat) :
    Changes scan (scan.addOutput number index).1 := by
  cases h : (scan.test number).output with
  | some found =>
    simp only [addOutput, h]
    exact .single (.files _ _ rfl (fun _ => id) fun _ => id)
  | none =>
    simp only [addOutput, h]
    exact .single (.files _ _ rfl (fun _ => id) (by simp [h]))

/-- The lines in front of the one that fails have their effect. -/
lemma changes_readScoreLines (fault : Option IoError) (lines : List Bytes) :
    Changes scan (readScoreLines fault scan lines).1 := by
  induction lines generalizing scan with
  | nil => exact .refl
  | cons line lines ih =>
    cases hd : Utf8.decode? line with
    | none => rw [readScoreLines_badText hd]
    | some text =>
      cases hs : scoreLine? text with
      | none =>
        rw [readScoreLines_skip hd hs]
        exact ih scan
      | some scored =>
        obtain ⟨number, score⟩ := scored
        by_cases hn : number ∈ scan.scored
        · rw [readScoreLines_twice hd hs hn]
        · rw [readScoreLines_score hd hs hn]
          exact .head (.score number score hn) (ih _)

lemma changes_readProperties (source : Source) : Changes scan (scan.readProperties source).1 := by
  cases ht : source.readText with
  | error cause => simp only [readProperties, ht, Relation.ReflTransGen.refl]
  | ok text =>
    cases hp : Properties.ofText text with
    | error cause => simp only [readProperties, ht, hp, Relation.ReflTransGen.refl]
    | ok properties =>
      simp only [readProperties, ht, hp]
      exact .single (.settings properties)

lemma changes_readEntry (entries : List Entry) (index : Nat) :
    Changes scan (scan.readEntry entries index).1 := by
  cases ho : openAt entries index with
  | error cause => simp only [readEntry, ho, Relation.ReflTransGen.refl]
  | ok opened =>
    obtain ⟨entry, source⟩ := opened
    cases hd : entry.isDirectory with
    | true => simp only [readEntry, ho, hd, if_true, Relation.ReflTransGen.refl]
    | false =>
      simp only [readEntry, ho, hd, Bool.false_eq_true, if_false]
      cases EntryName.kind (EntryName.baseName entry.name) with
      | scores => exact changes_readScoreLines scan source.fault _
      | properties => exact changes_readProperties scan source
      | input number => exact changes_addInput scan number index
      | output number => exact changes_addOutput scan number index
      | other => exact .refl

/-- A call changes a scan in these ways only, also when it fails midway. -/
theorem changes_perform (reading : Reading) : Changes scan (reading.perform scan).1 := by
  cases reading with
  | entry entries index => exact changes_readEntry scan entries index
  | scores source => exact changes_readScoreLines scan source.fault _

theorem changes_afterReadings (readings : List Reading) :
    Changes scan (scan.afterReadings readings) := by
  induction readings generalizing scan with
  | nil => exact .refl
  | cons reading readings ih => exact (changes_perform scan reading).trans (ih _)

end Steps

/-- Tests that stay known, with data that stays where it was found. -/
structure Keeps (before after : Scan) : Prop where
  known : ∀ number ∈ before.tests.keys, number ∈ after.tests.keys
  input : ∀ number index, (before.test number).input = some index →
    (after.test number).input = some index
  output : ∀ number index, (before.test number).output = some index →
    (after.test number).output = some index

/-- Explicit scores belong to known tests, and no test has two. -/
structure Consistent (scan : Scan) : Prop where
  nodup : scan.scored.Nodup
  known : ∀ number ∈ scan.scored, number ∈ scan.tests.keys

/-- A consistent scan in which no shares were given: tests without an explicit score have no
points. -/
structure Unshared (scan : Scan) : Prop extends Consistent scan where
  score_eq_zero : ∀ number, number ∉ scan.scored → (scan.test number).score = 0

variable {scan a b c : Scan}

/-- The known tests are those with an explicit score and those without. -/
lemma Consistent.keys_perm (h : scan.Consistent) :
    scan.tests.keys.Perm (scan.scored ++ scan.unscored) := by
  have hkeys := scan.tests.nodup_keys
  have hnodup : (scan.scored ++ scan.unscored).Nodup := by
    refine List.nodup_append.mpr ⟨h.nodup, hkeys.filter _, ?_⟩
    rintro number hs _ hu rfl
    simp [unscored, hs] at hu
  refine (List.perm_ext_iff_of_nodup hkeys hnodup).mpr fun number => ?_
  by_cases hs : number ∈ scan.scored
  · simp [hs, h.known number hs]
  · simp [unscored, hs]

lemma Consistent.size_le_iff (h : scan.Consistent) :
    scan.tests.size ≤ scan.scored.length ↔ scan.unscored = [] := by
  have hlength := h.keys_perm.length_eq
  rw [Table.length_keys, List.length_append] at hlength
  rw [← List.length_eq_zero_iff]
  omega

lemma Keeps.refl (scan : Scan) : scan.Keeps scan :=
  ⟨fun _ => id, fun _ _ => id, fun _ _ => id⟩

lemma Keeps.trans (hab : a.Keeps b) (hbc : b.Keeps c) : a.Keeps c where
  known number h := hbc.known number (hab.known number h)
  input number index h := hbc.input number index (hab.input number index h)
  output number index h := hbc.output number index (hab.output number index h)

lemma keeps_setTest {number : Int} {files : TestFiles}
    (hinput : ∀ index, (a.test number).input = some index → files.input = some index)
    (houtput : ∀ index, (a.test number).output = some index → files.output = some index) :
    a.Keeps (a.setTest number files) where
  known other h := mem_keys_setTest.mpr (.inr h)
  input other index h := by
    rw [test_setTest]
    split
    · next heq => exact hinput index (heq ▸ h)
    · exact h
  output other index h := by
    rw [test_setTest]
    split
    · next heq => exact houtput index (heq ▸ h)
    · exact h

theorem Change.keeps (h : Change a b) : a.Keeps b := by
  cases h with
  | files number files hscore hinput houtput => exact keeps_setTest hinput houtput
  | score number score hnew =>
    have hset : a.Keeps (a.setTest number { a.test number with score := score }) :=
      keeps_setTest (fun _ => id) fun _ => id
    exact ⟨hset.known, hset.input, hset.output⟩
  | settings properties => exact ⟨fun _ => id, fun _ _ => id, fun _ _ => id⟩

theorem Change.consistent (h : Change a b) (ha : a.Consistent) : b.Consistent := by
  cases h with
  | files number files =>
    exact ⟨ha.nodup, fun other hs => mem_keys_setTest.mpr (.inr (ha.known other hs))⟩
  | score number score hnew =>
    refine ⟨?_, ?_⟩
    · exact List.nodup_append.mpr ⟨ha.nodup, List.pairwise_singleton _ number, by
        intro other hother _ hlast heq
        exact hnew (List.mem_singleton.mp hlast ▸ heq ▸ hother)⟩
    · intro other hs
      refine mem_keys_setTest.mpr ?_
      rcases List.mem_append.mp hs with hs | hs
      · exact .inr (ha.known other hs)
      · exact .inl (List.mem_singleton.mp hs)
  | settings properties => exact ⟨ha.nodup, ha.known⟩

theorem Change.unshared (h : Change a b) (ha : a.Unshared) : b.Unshared := by
  refine ⟨h.consistent ha.toConsistent, ?_⟩
  cases h with
  | files number files hscore =>
    intro other hs
    rw [test_setTest]
    split
    · next heq => rw [hscore, heq, ha.score_eq_zero other hs]
    · exact ha.score_eq_zero other hs
  | score number score hnew =>
    intro other hs
    obtain ⟨hold, hother⟩ : other ∉ a.scored ∧ number ≠ other := by
      simpa [setScore, not_or, eq_comm] using hs
    have htest : (a.setScore number score).test other =
        (a.setTest number { a.test number with score := score }).test other := rfl
    rw [htest, test_setTest, if_neg hother, ha.score_eq_zero other hold]
  | settings properties => exact ha.score_eq_zero

lemma Changes.keeps (h : Changes a b) : a.Keeps b := by
  induction h with
  | refl => exact .refl a
  | tail _ hchange ih => exact ih.trans hchange.keeps

lemma Changes.consistent (h : Changes a b) (ha : a.Consistent) : b.Consistent := by
  induction h with
  | refl => exact ha
  | tail _ hchange ih => exact hchange.consistent ih

lemma Changes.unshared (h : Changes a b) (ha : a.Unshared) : b.Unshared := by
  induction h with
  | refl => exact ha
  | tail _ hchange ih => exact hchange.unshared ih

/-- Data that was found stays where it was found. -/
theorem keeps_afterReadings (scan : Scan) (readings : List Reading) :
    scan.Keeps (scan.afterReadings readings) := (changes_afterReadings scan readings).keeps

/-- Calls give points by score lines only. -/
theorem unshared_afterReadings (readings : List Reading) :
    (afterReadings {} readings).Unshared :=
  (changes_afterReadings {} readings).unshared ⟨⟨List.nodup_nil, by simp⟩, fun _ _ => rfl⟩

/-! ### Calls that read and calls that infer scores -/

@[simp] lemma scored_inferScores (scan : Scan) : scan.inferScores.scored = scan.scored := by
  rw [inferScores]
  split <;> rfl

@[simp] lemma keys_inferScores (scan : Scan) :
    scan.inferScores.tests.keys = scan.tests.keys := by
  rw [inferScores]
  split
  · rfl
  · simp only [Table.keys, map_fst_assignShares]

/-- Entries of tests that differ in their scores only. -/
def SameFiles (e d : Int × TestFiles) : Prop :=
  d.1 = e.1 ∧ d.2.input = e.2.input ∧ d.2.output = e.2.output

lemma forall₂_assignShares (scored : List Int) (share cutoff place : Int)
    (entries : List (Int × TestFiles)) :
    List.Forall₂ SameFiles entries (assignShares scored share cutoff place entries) := by
  induction entries generalizing place with
  | nil => exact .nil
  | cons e rest ih =>
    obtain ⟨number, files⟩ := e
    rw [assignShares]
    split
    · exact .cons ⟨rfl, rfl, rfl⟩ (ih place)
    · exact .cons ⟨rfl, rfl, rfl⟩ (ih (place + 1))

lemma forall₂_inferScores (scan : Scan) :
    List.Forall₂ SameFiles scan.tests.entries scan.inferScores.tests.entries := by
  rw [inferScores]
  split
  · exact List.forall₂_same.mpr fun _ _ => ⟨rfl, rfl, rfl⟩
  · exact forall₂_assignShares ..

/-- Inference leaves the data of tests where it was found. -/
lemma sameFiles_inferScores (scan : Scan) (number : Int) :
    SameFiles (number, scan.test number) (number, scan.inferScores.test number) := by
  by_cases hknown : number ∈ scan.tests.keys
  · obtain ⟨⟨other, files⟩, hafter, hsame⟩ :=
      exists_of_mem_of_forall₂ scan.forall₂_inferScores (mem_entries_of_known hknown)
    obtain rfl : other = number := hsame.1
    rwa [test_of_mem hafter]
  · have hafter : number ∉ scan.inferScores.tests.keys := by rwa [keys_inferScores]
    rw [test_of_notMem hknown, test_of_notMem hafter]
    exact ⟨rfl, rfl, rfl⟩

lemma keeps_inferScores (scan : Scan) : scan.Keeps scan.inferScores where
  known number h := by rwa [keys_inferScores]
  input number index h := (scan.sameFiles_inferScores number).2.1.trans h
  output number index h := (scan.sameFiles_inferScores number).2.2.trans h

lemma Consistent.inferScores (h : scan.Consistent) : scan.inferScores.Consistent := by
  refine ⟨?_, ?_⟩
  · rw [scored_inferScores]
    exact h.nodup
  · rw [scored_inferScores, keys_inferScores]
    exact h.known

/-- If there are more tests than explicit scores, one of them has none, whatever the scores belong
to. -/
lemma unscored_ne_nil (h : ¬scan.tests.size ≤ scan.scored.length) : scan.unscored ≠ [] := by
  intro hnil
  have hsubset : ∀ number ∈ scan.tests.keys, number ∈ scan.scored := by
    simpa [unscored, List.filter_eq_nil_iff] using hnil
  apply h
  rw [← Table.length_keys]
  exact (List.subperm_of_subset scan.tests.nodup_keys fun number => hsubset number).length_le

/-- Quotient and remainder, none if the divisor is zero. -/
def divide? (a b : Int) : Option (Int × Int) :=
  if b = 0 then none else some (a.tdiv b, a.tmod b)

/-- The tests after inference, none if it divides by zero. -/
def inferredEntries? (scan : Scan) : Option (List (Int × TestFiles)) :=
  if scan.tests.size ≤ scan.scored.length then some scan.tests.entries
  else
    (divide? scan.remaining scan.unscored.length).map fun (quotient, rest) =>
      assignShares scan.scored (quotient + 1) (scan.unscored.length - rest) 0 scan.tests.entries

lemma inferredEntries?_eq (scan : Scan) :
    scan.inferredEntries? = some scan.inferScores.tests.entries := by
  rw [inferredEntries?, inferScores]
  split
  · rfl
  · next hmore =>
    have hne : (scan.unscored.length : Int) ≠ 0 := by
      simpa using unscored_ne_nil hmore
    rw [divide?, if_neg hne]
    rfl

/-- A call to a scan: one that reads, or inference of scores. -/
inductive Call where
  | read (reading : Reading)
  | infer

/-- What is known after a call, and its error. -/
def Call.perform (scan : Scan) : Call → Scan × Option Error
  | read reading => reading.perform scan
  | infer => (scan.inferScores, none)

/-- What is known after calls one by one, each of which may have failed. -/
def afterCalls (scan : Scan) (calls : List Call) : Scan :=
  calls.foldl (fun scan call => (call.perform scan).1) scan

lemma Call.keeps (call : Call) (scan : Scan) : scan.Keeps (call.perform scan).1 := by
  cases call with
  | read reading => exact (changes_perform scan reading).keeps
  | infer => exact scan.keeps_inferScores

lemma Call.consistent (call : Call) (h : scan.Consistent) : (call.perform scan).1.Consistent := by
  cases call with
  | read reading => exact (changes_perform scan reading).consistent h
  | infer => exact h.inferScores

lemma Consistent.afterCalls (h : scan.Consistent) (calls : List Call) :
    (scan.afterCalls calls).Consistent := by
  induction calls generalizing scan with
  | nil => exact h
  | cons call calls ih => exact ih (call.consistent h)

lemma Unshared.afterCalls (h : scan.Unshared) {calls : List Call} (hinfer : .infer ∉ calls) :
    (scan.afterCalls calls).Unshared := by
  induction calls generalizing scan with
  | nil => exact h
  | cons call calls ih =>
    obtain ⟨hcall, hcalls⟩ := List.ne_and_not_mem_of_not_mem_cons hinfer
    cases call with
    | read reading => exact ih ((changes_perform scan reading).unshared h) hcalls
    | infer => exact absurd rfl hcall

/-- What holds of a scan after calls in any order, some of which may have failed midway. -/
structure SoundAfter (calls : List Call) (scan : Scan) : Prop extends Consistent scan where
  /-- A test without an explicit score has points from inference only. -/
  inferred : ∀ number ∉ scan.scored, (scan.test number).score ≠ 0 → .infer ∈ calls
  /-- Another call keeps every test and its data, -/
  keeps : ∀ call : Call, scan.Keeps (call.perform scan).1
  /-- and inference does not divide by zero. -/
  divides : scan.inferredEntries? = some scan.inferScores.tests.entries

theorem soundAfter_afterCalls (calls : List Call) : (afterCalls {} calls).SoundAfter calls := by
  have hempty : ({} : Scan).Unshared := ⟨⟨List.nodup_nil, by simp⟩, fun _ _ => rfl⟩
  refine ⟨hempty.toConsistent.afterCalls calls, ?_, fun call => call.keeps _, inferredEntries?_eq _⟩
  intro number hs hscore
  by_contra hinfer
  exact hscore ((hempty.afterCalls hinfer).score_eq_zero number hs)

/-- Inference gives test 2 its points in front of a score file whose second line is an error. -/
example :
    let calls : List Call := [.read (.scores ⟨Utf8.encode "1 40\n".toList, none⟩),
      .read (.entry [{ name := "2-sum.in", data := [] }] 0), .infer,
      .read (.scores ⟨Utf8.encode "3 5\n1 30\n2 10\n".toList, none⟩)]
    (afterCalls {} calls).scores = [(1, 40), (2, 60), (3, 5)] ∧
      (afterCalls {} calls).scored = [1, 3] := by decide +kernel

end Scan
end Judge.Archive
