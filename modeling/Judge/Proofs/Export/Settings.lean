import Judge.Proofs.Export.Content

/-!
The settings of an exported problem: its groups number the subtasks in their stored order, and what
was written is read back.
-/

namespace Judge.Archive.Export

open Store (Memory)

/-- A problem whose settings survive being written: limits that keep their value in six decimal
places, numbers that are not negative, and texts of one trimmed line. -/
structure Lasting (problem : Store.Problem) : Prop where
  timeLimit : problem.timeLimit.isFinite = true ∧ problem.timeLimit.lt .zero = false
  timeRead : Decimal.readReal? (Decimal.writeFixed 6 problem.timeLimit) = some problem.timeLimit
  memoryLimit : 0 ≤ problem.memoryLimit
  memoryRead : (Decimal.readReal? (writeMegabytes problem.memoryLimit)).map kilobytes =
    some problem.memoryLimit
  defaultPoints : 0 ≤ problem.defaultPoints
  sourceSize : 0 ≤ problem.sourceSize
  authorCredits : IsLine problem.authorCredits.toList
  sourceCredits : IsLine problem.sourceCredits.toList
  scoringStrategy : IsLine problem.scoringStrategy.toList

/-- The numbers of a problem, its live tests and its subtasks fit the types of their fields. -/
structure Sized (problem : Store.Problem) (s : Memory) : Prop where
  visibleIds : ∀ test ∈ s.liveTests problem.id, Decimal.int32.contains test.visibleId = true
  scores : ∀ test ∈ s.liveTests problem.id, Decimal.int32.contains test.score = true
  subtaskScores : ∀ subtask ∈ s.subtasksOf problem.id,
    Decimal.int32.contains subtask.score = true
  memoryLimit : Decimal.int64.contains problem.memoryLimit = true
  defaultPoints : Decimal.int32.contains problem.defaultPoints = true
  sourceSize : Decimal.int64.contains problem.sourceSize = true

section Limits

variable {problem : Store.Problem}

lemma readLimit_time (h : Lasting problem) :
    readLimit .time (Decimal.writeFixed 6 problem.timeLimit) = .ok problem.timeLimit := by
  rw [readLimit, h.timeRead]
  simp only [h.timeLimit.1, h.timeLimit.2, Bool.not_false, Bool.and_self, if_true]

/-- A memory limit is read as a number of megabytes, which gives the limit again. -/
lemma readLimit_memory (h : Lasting problem)
    (hsize : Decimal.int64.contains problem.memoryLimit = true) :
    ∃ read, readLimit .memory (writeMegabytes problem.memoryLimit) = .ok read ∧
      kilobytes read = problem.memoryLimit := by
  have hle : problem.memoryLimit ≤ Decimal.int64.greatest := by
    simp only [Decimal.Bounds.contains, Bool.and_eq_true, decide_eq_true_eq] at hsize
    exact hsize.2
  obtain ⟨steps, hmoderate, hdiv⟩ := Decimal.div_1024_eq_finite h.memoryLimit hle
  obtain ⟨read, hread⟩ := Decimal.readReal?_writeFixed hmoderate
  have hmegabytes : Decimal.readReal? (writeMegabytes problem.memoryLimit) =
      some (.finite false read) := by
    rw [writeMegabytes, hdiv, hread]
  have hvalue := h.memoryRead
  rw [hmegabytes, Option.map_some, Option.some.injEq] at hvalue
  refine ⟨.finite false read, ?_, hvalue⟩
  rw [readLimit, hmegabytes]
  have hnonneg : (Decimal.Binary64.finite false read).lt .zero = false := by
    simp [Decimal.Binary64.lt, Decimal.Binary64.zero, Decimal.Binary64.signedSteps]
  simp only [hnonneg, Decimal.Binary64.isFinite, Bool.not_false, Bool.and_self, if_true]

end Limits

section Groups

variable {tests : List Store.Test}

/-- Ids of tests become their numbers, one for one. -/
theorem visibleIds_eq {ids : List Int} (h : ∀ id ∈ ids, ∃ test ∈ tests, test.id = id) :
    List.Forall₂ (fun id number => ∃ test ∈ tests, test.id = id ∧ test.visibleId = number) ids
      (visibleIds tests ids) := by
  induction ids with
  | nil => exact .nil
  | cons id ids ih =>
    obtain ⟨test, htest, hid⟩ := h id (by simp)
    have hsome : (tests.reverse.find? fun test => test.id == id).isSome := by
      rw [List.find?_isSome]
      exact ⟨test, List.mem_reverse.mpr htest, by simpa using hid⟩
    obtain ⟨found, hfound⟩ := Option.isSome_iff_exists.mp hsome
    have hmem : found ∈ tests := List.mem_reverse.mp (List.mem_of_find?_eq_some hfound)
    have hfoundId : found.id = id := by simpa using List.find?_some hfound
    have hcons : visibleIds tests (id :: ids) = found.visibleId :: visibleIds tests ids := by
      rw [visibleIds, List.filterMap_cons, hfound]
      rfl
    rw [hcons]
    exact .cons ⟨found, hmem, hfoundId, rfl⟩ (ih fun other hother => h other (by simp [hother]))

lemma exists_of_mem_visibleIds {ids : List Int} {number : Int} (h : number ∈ visibleIds tests ids) :
    ∃ test ∈ tests, test.visibleId = number := by
  obtain ⟨id, -, hid⟩ := List.mem_filterMap.mp h
  obtain ⟨test, htest, rfl⟩ := Option.map_eq_some_iff.mp hid
  exact ⟨test, List.mem_reverse.mp (List.mem_of_find?_eq_some htest), rfl⟩

/-- The group of a subtask. -/
def groupOf (tests : List Store.Test) (subtask : Store.Subtask) : Group :=
  { score := subtask.score, tests := visibleIds tests subtask.tests }

/-- The groups are those of the subtasks in their stored order, whatever the visible ids are. -/
lemma entries_groups (tests : List Store.Test) (subtasks : List Store.Subtask) :
    (groups tests subtasks).entries =
      subtasks.mapIdx fun i subtask => ((i : Int) + 1, groupOf tests subtask) :=
  Table.entries_ofList_mapIdx subtasks fun _ => groupOf tests

lemma values_groups (tests : List Store.Test) (subtasks : List Store.Subtask) :
    (groups tests subtasks).values = subtasks.map (groupOf tests) := by
  rw [Table.values, entries_groups]
  apply List.ext_getElem
  · simp
  · intro i _ _
    simp

lemma keys_groups (tests : List Store.Test) (subtasks : List Store.Subtask) :
    (groups tests subtasks).keys =
      (List.range (groups tests subtasks).size).map fun i : Nat => (i : Int) + 1 := by
  rw [Table.keys, Table.size, entries_groups]
  apply List.ext_getElem
  · simp
  · intro i _ _
    simp

lemma exists_of_mem_groups {subtasks : List Store.Subtask} {g : Int × Group}
    (hg : g ∈ (groups tests subtasks).entries) {number : Int} (hnumber : number ∈ g.2.tests) :
    ∃ test ∈ tests, test.visibleId = number := by
  have hgroup : g.2 ∈ (groups tests subtasks).values := List.mem_map_of_mem hg
  rw [values_groups] at hgroup
  obtain ⟨subtask, -, hsubtask⟩ := List.mem_map.mp hgroup
  rw [← hsubtask] at hnumber
  exact exists_of_mem_visibleIds hnumber

end Groups

lemma eq_of_unlessUsual {α : Type} [DecidableEq α] {usual value other : α}
    (h : unlessUsual usual value = some other) : other = value := by
  rw [unlessUsual] at h
  split at h
  · contradiction
  · exact (Option.some.inj h).symm

section Read

variable {problem : Store.Problem} {s : Memory}

/-- The groups of exported settings count from one, and their numbers fit their types. -/
lemma groups_properties (hsized : Sized problem s) (hne : s.subtasksOf problem.id ≠ [])
    {table : Table Group} (htable : (properties problem (testName problem)
      (s.liveTests problem.id) (s.subtasksOf problem.id)).subtasks = some table) :
    table.values ≠ [] ∧ table.keys = ((List.range table.size).map fun i : Nat => (i : Int) + 1) ∧
      ∀ group ∈ table.values, Decimal.int32.contains group.score = true ∧
        ∀ number ∈ group.tests, Decimal.int32.contains number = true := by
  obtain rfl := Option.some.inj htable
  rw [values_groups]
  refine ⟨by simpa using hne, keys_groups _ _, ?_⟩
  rw [List.forall_mem_map]
  intro subtask hsubtask
  refine ⟨hsized.subtaskScores subtask hsubtask, fun number hnumber => ?_⟩
  obtain ⟨test, htest, rfl⟩ := exists_of_mem_visibleIds hnumber
  exact hsized.visibleIds test htest

/-- Settings of a problem with subtasks survive being written if those of the problem do. -/
theorem portable_properties (h : Lasting problem) (hsized : Sized problem s)
    (hname : '\n' ∉ (testName problem).toList) (hne : s.subtasksOf problem.id ≠ []) :
    (properties problem (testName problem) (s.liveTests problem.id)
      (s.subtasksOf problem.id)).Portable where
  groups _ htable := groups_properties hsized hne htable
  timeLimit limit hlimit := by
    obtain rfl := Option.some.inj hlimit
    exact readLimit_time h
  memoryLimit limit hlimit := by
    obtain rfl := Option.some.inj hlimit
    exact readLimit_memory h hsized.memoryLimit
  defaultPoints points hpoints := by
    rw [eq_of_unlessUsual hpoints]
    exact ⟨hsized.defaultPoints, h.defaultPoints⟩
  sourceSize size hsize := by
    rw [eq_of_unlessUsual hsize]
    exact ⟨hsized.sourceSize, h.sourceSize⟩
  author text htext := by
    rw [eq_of_unlessUsual htext]
    exact h.authorCredits
  source text htext := by
    rw [eq_of_unlessUsual htext]
    exact h.sourceCredits
  testName text htext := by
    obtain rfl := Option.some.inj htext
    exact ⟨hname, trim_testName problem⟩
  scoringStrategy text htext := by
    obtain rfl := Option.some.inj htext
    exact h.scoringStrategy

/-- The settings of an exported problem are read back, apart from what quoting does to tags. -/
theorem settings?_settingsEntry {p : Properties} (h : p.Portable) :
    ∃ tags, (settingsEntry p).settings? = some { p with tags } := by
  refine ⟨p.tags.map rereadTags, ?_⟩
  rw [settingsEntry, Entry.settings?, Utf8.decode?_encode, Option.bind_some,
    Properties.ofText_toText h]
  rfl

end Read

end Judge.Archive.Export
