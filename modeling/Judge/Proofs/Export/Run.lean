import Judge.Proofs.Export.Names
import Judge.Proofs.Store.Memory
import Judge.Proofs.Transfer

/-!
What an export gives: the data of the live tests in the order of the listing, then the score file,
then the settings if there are subtasks. The store is not changed. Whatever store it is, an export
reads the tests and the subtasks of its problem, and the data of the tests that it was told of.
-/

namespace Judge
namespace Archive.Export

open Store (Memory)
open Transfer (runOn runOn_bind_of_ok)

/-- The data of a test is in a memory. -/
def Stored (s : Memory) (test : Store.Test) : Prop :=
  (∃ input, s.inputs.get? test.id = some input) ∧ ∃ output, s.outputs.get? test.id = some output

/-- The entry with the input of a test. -/
def inputEntry (s : Memory) (name : String) (test : Store.Test) : Entry :=
  { name := entryName test.visibleId name ".in", data := (s.inputs.get? test.id).getD [] }

/-- The entry with the output of a test. -/
def outputEntry (s : Memory) (name : String) (test : Store.Test) : Entry :=
  { name := entryName test.visibleId name ".ok", data := (s.outputs.get? test.id).getD [] }

/-- The entries with the data of tests. -/
def dataEntries (s : Memory) (name : String) (tests : List Store.Test) : List Entry :=
  tests.flatMap fun test => [inputEntry s name test, outputEntry s name test]

/-- The score file of tests. -/
def scoreEntry (tests : List Store.Test) : Entry :=
  { name := "tests.txt", data := Utf8.encode (scoreFile tests) }

/-- The file with settings. -/
def settingsEntry (properties : Properties) : Entry :=
  { name := "grader.properties", data := Utf8.encode properties.toText }

/-- The entries for tests and for settings, if there are any. -/
def archiveOf (s : Memory) (name : String) (tests : List Store.Test) (settings : Option Properties) :
    List Entry :=
  dataEntries s name tests ++ scoreEntry tests :: (settings.map settingsEntry).toList

/-- The settings that are exported: none unless there are subtasks. -/
def settingsOf (problem : Store.Problem) (s : Memory) : Option Properties :=
  let subtasks := s.subtasksOf problem.id
  if subtasks.isEmpty then none
  else some (properties problem (testName problem) (s.liveTests problem.id) subtasks)

/-- What a problem is exported to. -/
def exported (problem : Store.Problem) (s : Memory) : List Entry :=
  archiveOf s (testName problem) (s.liveTests problem.id) (settingsOf problem s)

section Names

variable {number other : Int} {name ending : String}

lemma entryName_inj (h : entryName number name ending = entryName other name ending) :
    number = other := by
  have hlists := congrArg String.toList h
  rw [toList_entryName, toList_entryName] at hlists
  exact Decimal.writeInt_inj (List.append_cancel_right hlists)

lemma ne_of_getLast? {a b : String} {c d : Char} (ha : a.toList.getLast? = some c)
    (hb : b.toList.getLast? = some d) (hne : c ≠ d) : a ≠ b := by
  rintro rfl
  rw [ha] at hb
  exact hne (Option.some.inj hb)

lemma input_ne_output (number other : Int) (name : String) :
    entryName number name ".in" ≠ entryName other name ".ok" :=
  ne_of_getLast? (getLast?_entryName (c := 'n') rfl) (getLast?_entryName (c := 'k') rfl) (by decide)

end Names

lemma runOn_addEntry {σ : Type} {handle : Store.Handler σ} {entries : List Entry} {name : String}
    (h : ∀ entry ∈ entries, entry.name ≠ name) (s : σ) :
    runOn handle (addEntry entries name) s = (.ok (), s) := by
  have hfresh : (entries.any fun entry => entry.name == name) = false := by
    rw [List.any_eq_false]
    intro entry he
    simpa using h entry he
  rw [addEntry, hfresh, if_neg (by simp)]
  rfl

variable {s : Memory} {name : String}

lemma forall_mem_dataEntries {P : Entry → Prop} {tests : List Store.Test}
    (h : ∀ test ∈ tests, P (inputEntry s name test) ∧ P (outputEntry s name test)) :
    ∀ entry ∈ dataEntries s name tests, P entry := by
  intro entry he
  obtain ⟨test, htest, he⟩ := List.mem_flatMap.mp he
  rcases List.mem_cons.mp he with rfl | he
  · exact (h test htest).1
  · obtain rfl := List.mem_singleton.mp he
    exact (h test htest).2

/-- No data entry has a name that ends in another character than theirs do. -/
lemma name_ne_of_mem_dataEntries {tests : List Store.Test} {other : String} {c : Char}
    (hother : other.toList.getLast? = some c) (hc : 'n' ≠ c ∧ 'k' ≠ c) :
    ∀ entry ∈ dataEntries s name tests, entry.name ≠ other := by
  apply forall_mem_dataEntries
  intro test _
  exact ⟨ne_of_getLast? (getLast?_entryName rfl) hother hc.1,
    ne_of_getLast? (getLast?_entryName rfl) hother hc.2⟩

lemma runOn_contents {σ : Type} {handle : Store.Handler σ} (data : Bytes) (s : σ) :
    runOn handle (contents ⟨data, none⟩) s = (.ok data, s) := rfl

lemma addTests_cons {entries : List Entry} {test : Store.Test} (hstored : Stored s test)
    (hinput : ∀ entry ∈ entries, entry.name ≠ entryName test.visibleId name ".in")
    (houtput : ∀ entry ∈ entries, entry.name ≠ entryName test.visibleId name ".ok")
    (rest : List Store.Test) :
    runOn Memory.handle (addTests name entries (test :: rest)) s =
      runOn Memory.handle
        (addTests name (entries ++ [inputEntry s name test, outputEntry s name test]) rest) s := by
  obtain ⟨⟨input, hin⟩, output, hout⟩ := hstored
  have hgetInput : runOn Memory.handle (Transfer.request .getInput (.input test.id)) s =
      (.ok (⟨input, none⟩ : Source), s) := by
    refine (Transfer.runOn_request ..).trans ?_
    simp only [Memory.handle, Memory.blob, hin]
    rfl
  have hgetOutput : runOn Memory.handle (Transfer.request .getOutput (.output test.id)) s =
      (.ok (⟨output, none⟩ : Source), s) := by
    refine (Transfer.runOn_request ..).trans ?_
    simp only [Memory.handle, Memory.blob, hout]
    rfl
  have houtputThen : ∀ entry ∈ entries ++ [inputEntry s name test],
      entry.name ≠ entryName test.visibleId name ".ok" := by
    intro entry he
    rcases List.mem_append.mp he with he | he
    · exact houtput entry he
    · obtain rfl := List.mem_singleton.mp he
      exact input_ne_output _ _ _
  have hinputEntry : inputEntry s name test =
      { name := entryName test.visibleId name ".in", data := input } := by
    rw [inputEntry, hin, Option.getD_some]
  have houtputEntry : outputEntry s name test =
      { name := entryName test.visibleId name ".ok", data := output } := by
    rw [outputEntry, hout, Option.getD_some]
  rw [hinputEntry] at houtputThen ⊢
  rw [houtputEntry]
  simp only [addTests, Transfer.runOn_bind, runOn_addEntry hinput, hgetInput, runOn_contents,
    runOn_addEntry houtputThen, hgetOutput, List.append_assoc, List.cons_append, List.nil_append]

/-- The data of tests with different numbers is added test by test. -/
theorem addTests_run {done rest : List Store.Test}
    (hdistinct : (done ++ rest).Pairwise fun x y => x.visibleId ≠ y.visibleId)
    (hstored : ∀ test ∈ rest, Stored s test) :
    runOn Memory.handle (addTests name (dataEntries s name done) rest) s =
      (.ok (dataEntries s name (done ++ rest)), s) := by
  induction rest generalizing done with
  | nil =>
    rw [List.append_nil]
    rfl
  | cons test rest ih =>
    have hother : ∀ before ∈ done, before.visibleId ≠ test.visibleId := by
      intro before hbefore
      exact (List.pairwise_append.mp hdistinct).2.2 before hbefore test (by simp)
    have hinput : ∀ entry ∈ dataEntries s name done,
        entry.name ≠ entryName test.visibleId name ".in" := by
      apply forall_mem_dataEntries
      intro before hbefore
      refine ⟨fun hsame => hother before hbefore (entryName_inj hsame), ?_⟩
      exact (input_ne_output _ _ _).symm
    have houtput : ∀ entry ∈ dataEntries s name done,
        entry.name ≠ entryName test.visibleId name ".ok" := by
      apply forall_mem_dataEntries
      intro before hbefore
      refine ⟨?_, fun hsame => hother before hbefore (entryName_inj hsame)⟩
      exact input_ne_output _ _ _
    have hdone : dataEntries s name done ++ [inputEntry s name test, outputEntry s name test] =
        dataEntries s name (done ++ [test]) := by
      simp [dataEntries]
    rw [addTests_cons (hstored test (by simp)) hinput houtput, hdone,
      ih (by simpa using hdistinct) fun t ht => hstored t (by simp [ht])]
    simp

/-- A problem whose live tests have different numbers and all their data is exported, and the store
stays as it is. -/
theorem exportArchive_run {problem : Store.Problem}
    (hdistinct : (s.liveTests problem.id).Pairwise fun x y => x.visibleId ≠ y.visibleId)
    (hstored : ∀ test ∈ s.liveTests problem.id, Stored s test) :
    runOn Memory.handle (exportArchive problem) s = (.ok (exported problem s), s) := by
  have htests : runOn Memory.handle (Transfer.request .getTests (.tests problem.id)) s =
      (.ok (s.liveTests problem.id), s) := rfl
  have hsubtasks : runOn Memory.handle (Transfer.request .getSubtasks (.subtasks problem.id)) s =
      (.ok (s.subtasksOf problem.id), s) := rfl
  have hdata : runOn Memory.handle (addTests (testName problem) [] (s.liveTests problem.id)) s =
      (.ok (dataEntries s (testName problem) (s.liveTests problem.id)), s) :=
    @addTests_run s _ [] _ hdistinct hstored
  have htxt : "tests.txt".toList.getLast? = some 't' := by decide
  have hproperties : "grader.properties".toList.getLast? = some 's' := by decide
  have hscores : ∀ entry ∈ dataEntries s (testName problem) (s.liveTests problem.id),
      entry.name ≠ "tests.txt" := name_ne_of_mem_dataEntries htxt (by decide)
  have hsettings : ∀ entry ∈ dataEntries s (testName problem) (s.liveTests problem.id) ++
      [scoreEntry (s.liveTests problem.id)], entry.name ≠ "grader.properties" := by
    intro entry he
    rcases List.mem_append.mp he with he | he
    · exact name_ne_of_mem_dataEntries hproperties (by decide) entry he
    · obtain rfl := List.mem_singleton.mp he
      exact ne_of_getLast? htxt hproperties (by decide)
  rw [exportArchive, runOn_bind_of_ok htests, runOn_bind_of_ok hsubtasks, runOn_bind_of_ok hdata,
    runOn_bind_of_ok (runOn_addEntry hscores _)]
  split
  · next hnone => simp [exported, archiveOf, settingsOf, hnone, scoreEntry]
  · next hsome =>
    rw [scoreEntry] at hsettings
    rw [runOn_bind_of_ok (runOn_addEntry hsettings _)]
    simp [exported, archiveOf, settingsOf, hsome, scoreEntry, settingsEntry]

/-! ### Calls -/

section Calls

open Store (Call)
open Transfer (Sat sat_pure sat_throw sat_ofExcept sat_request)

/-- The calls of an export of a problem, given what holds of the ids of the tests that it was told
of. -/
def Makes (problem : Int) (listed : Int → Prop) : Call → Prop
  | .tests id | .subtasks id => id = problem
  | .input id | .output id => listed id
  | _ => False

/-- Values that tell of such tests. -/
def Lists (listed : Int → Prop) : (call : Call) → call.Value → Prop
  | .tests _, tests => ∀ test ∈ tests, listed test.id
  | _, _ => True

variable {problem : Int} {listed : Int → Prop}

lemma sat_addEntry (entries : List Entry) (name : String) :
    Sat (Makes problem listed) (Lists listed) (fun _ => True) (addEntry entries name) := by
  rw [addEntry]
  split
  · exact sat_throw _
  · exact sat_pure trivial

lemma sat_addTests {tests : List Store.Test} (htests : ∀ test ∈ tests, listed test.id)
    (name : String) (entries : List Entry) :
    Sat (Makes problem listed) (Lists listed) (fun _ => True) (addTests name entries tests) := by
  induction tests generalizing entries with
  | nil => exact sat_pure trivial
  | cons test tests ih =>
    have hlisted := htests test (by simp)
    have hinput : Makes problem listed (.input test.id) := hlisted
    have houtput : Makes problem listed (.output test.id) := hlisted
    have hcontents : ∀ source, Sat (Makes problem listed) (Lists listed) (fun _ => True)
        (contents source) := fun _ => sat_ofExcept fun _ _ => trivial
    unfold addTests
    refine (sat_addEntry _ _).bind fun _ _ => ?_
    refine (sat_request hinput fun _ _ => trivial).bind fun source (_ : True) => ?_
    refine (hcontents source).bind fun bytes _ => ?_
    refine (sat_addEntry _ _).bind fun _ _ => ?_
    refine (sat_request houtput fun _ _ => trivial).bind fun source (_ : True) => ?_
    exact (hcontents source).bind fun bytes _ => ih (fun t ht => htests t (by simp [ht])) _

/-- An export makes such calls only, whatever it is answered. -/
theorem sat_exportArchive (problem : Store.Problem) (listed : Int → Prop) :
    Sat (Makes problem.id listed) (Lists listed) (fun _ => True) (exportArchive problem) := by
  have htests : Makes problem.id listed (.tests problem.id) := rfl
  have hsubtasks : Makes problem.id listed (.subtasks problem.id) := rfl
  refine (sat_request htests fun _ hlisted => hlisted).bind fun tests hlisted => ?_
  refine (sat_request hsubtasks fun _ _ => trivial).bind fun subtasks (_ : True) => ?_
  refine (sat_addTests hlisted _ _).bind fun entries _ => (sat_addEntry _ _).bind fun _ _ => ?_
  dsimp only
  split
  · exact sat_pure trivial
  · exact (sat_addEntry _ _).bind fun _ _ => sat_pure trivial

/-- An export leaves a memory as it is. -/
theorem exportArchive_keeps (problem : Store.Problem) (s : Memory) :
    (Transfer.runOn Memory.handle (exportArchive problem) s).2 = s := by
  have hkeeps : ∀ (_ : Nat) (call : Call) (s : Memory), Makes problem.id (fun _ => True) call →
      True → (∀ value, (Memory.handle call s).1 = .ok value → Lists (fun _ => True) call value) ∧
        True ∧ (Memory.handle call s).2 = s := by
    intro _ call s hcall _
    cases call with
    | tests id => exact ⟨fun _ _ _ _ => trivial, trivial, rfl⟩
    | subtasks id | input id | output id => exact ⟨fun _ _ => trivial, trivial, rfl⟩
    | problem | saveProblem | updateProblem | createTest | orphanTests | saveInput | saveOutput
    | purgeData | createSubtask | deleteSubtasks => exact hcall.elim
  exact (@Sat.run _ _ Memory.handle _ _ _ _ (fun _ _ => True) (fun s t => t = s) (fun _ => rfl)
    (fun _ _ _ h k => k.trans h) hkeeps (sat_exportArchive problem fun _ => True) 0 s trivial).2

end Calls

end Archive.Export
end Judge
