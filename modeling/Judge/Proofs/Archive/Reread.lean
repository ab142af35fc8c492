import Judge.Proofs.Archive.Written

/-!
Settings that are written and read again are the same settings, apart from what quoting does to
tags and rounding to limits.
-/

namespace Judge.Archive

open Text (isBlank)

/-- Settings whose text can be read, with what becomes of the limits: the groups count from one,
numbers fit their types, and texts are trimmed lines. -/
structure Properties.Rereads (time : Decimal.Binary64 → Decimal.Binary64) (memory : Int → Int)
    (p : Properties) : Prop where
  groups : ∀ groups, p.subtasks = some groups → groups.values ≠ [] ∧
    groups.keys = ((List.range groups.size).map fun i : Nat => (i : Int) + 1) ∧
    ∀ group ∈ groups.values, Decimal.int32.contains group.score = true ∧
      ∀ number ∈ group.tests, Decimal.int32.contains number = true
  timeLimit : ∀ limit, p.timeLimit = some limit →
    readLimit .time (Decimal.writeFixed 6 limit) = .ok (time limit)
  memoryLimit : ∀ limit, p.memoryLimit = some limit →
    ∃ read, readLimit .memory (writeMegabytes limit) = .ok read ∧ kilobytes read = memory limit
  defaultPoints : ∀ points, p.defaultPoints = some points →
    Decimal.int32.contains points = true ∧ 0 ≤ points
  sourceSize : ∀ size, p.sourceSize = some size → Decimal.int64.contains size = true ∧ 0 ≤ size
  author : ∀ text, p.author = some text → IsLine text.toList
  source : ∀ text, p.source = some text → IsLine text.toList
  testName : ∀ text, p.testName = some text → IsLine text.toList
  scoringStrategy : ∀ text, p.scoringStrategy = some text → IsLine text.toList

/-- Settings that can be written and read back: the limits survive the rounding of their text. -/
abbrev Properties.Portable (p : Properties) : Prop := p.Rereads id id

namespace Properties

variable {p : Properties} {time : Decimal.Binary64 → Decimal.Binary64} {memory : Int → Int}

lemma isLine_of_mem_written {α : Type} {key : Key} {write : α → List Char} {value : Option α}
    (h : ∀ v, value = some v → IsLine (write v)) :
    ∀ s ∈ written key write value, IsLine s.2 := by
  intro s hs
  cases value with
  | none => simp [written] at hs
  | some v =>
    obtain rfl := List.mem_singleton.mp hs
    exact h v rfl

lemma isLine_writeInt (n : Int) : IsLine (Decimal.writeInt n) :=
  isLine_of_noBlank fun _ => Decimal.not_isBlank_of_mem_writeInt

lemma isLine_writeFlag (flag : Bool) : IsLine (writeFlag flag) := by
  cases flag <;> exact ⟨by decide, by decide⟩

lemma isLine_join {pieces : List (List Char)} {separator : Char}
    (hseparator : isBlank separator = false)
    (h : ∀ piece ∈ pieces, ∀ c ∈ piece, isBlank c = false) :
    ∀ c ∈ Text.join [separator] pieces, isBlank c = false := by
  intro c hc
  rcases Text.mem_join hc with hc | ⟨piece, hpiece, hc⟩
  · rwa [List.mem_singleton.mp hc]
  · exact h piece hpiece c hc

lemma noBlank_writeInts {numbers : List Int} : ∀ piece ∈ numbers.map Decimal.writeInt,
    ∀ c ∈ piece, isBlank c = false := by
  intro piece hpiece c hc
  obtain ⟨number, -, rfl⟩ := List.mem_map.mp hpiece
  exact Decimal.not_isBlank_of_mem_writeInt hc

/-- Every value that is written can stand on a line. -/
theorem isLine_settings (h : p.Rereads time memory) : ∀ s ∈ p.settings, IsLine s.2 := by
  have hgroups : ∀ groups : Table Group, IsLine (writeGroups groups) := by
    intro groups
    refine isLine_of_noBlank (isLine_join (by decide) ?_)
    rw [List.forall_mem_map]
    exact fun group _ => isLine_join (by decide) noBlank_writeInts
  have hweights : ∀ groups : Table Group, IsLine (writeWeights groups) := by
    intro groups
    refine isLine_of_noBlank (isLine_join (by decide) ?_)
    rw [List.forall_mem_map]
    exact fun group _ c => Decimal.not_isBlank_of_mem_writeInt
  have hlimit : ∀ limit, IsLine (Decimal.writeFixed 6 limit) :=
    fun limit => isLine_of_noBlank fun c => Decimal.not_isBlank_of_mem_writeFixed
  simp only [settings, List.forall_mem_append, and_assoc]
  refine ⟨?_, ?_, ?_, ?_, ?_, ?_, ?_, ?_, ?_, ?_, ?_, ?_⟩
  · exact isLine_of_mem_written fun groups _ => hgroups groups
  · exact isLine_of_mem_written fun groups _ => hweights groups
  · exact isLine_of_mem_written fun limit _ => hlimit limit
  · exact isLine_of_mem_written fun limit _ => hlimit _
  · exact isLine_of_mem_written fun points _ => isLine_writeInt points
  · exact isLine_of_mem_written h.author
  · exact isLine_of_mem_written h.source
  · exact isLine_of_mem_written fun size _ => isLine_writeInt size
  · exact isLine_of_mem_written fun flag _ => isLine_writeFlag flag
  · exact isLine_of_mem_written h.testName
  · exact isLine_of_mem_written h.scoringStrategy
  · exact isLine_of_mem_written fun tags _ => ⟨newline_notMem_writeTags tags, trim_writeTags tags⟩

end Properties

lemma Draft.setAll_append {draft middle last : Draft} {a b : List (Key × List Char)}
    (ha : draft.setAll a = .ok middle) (hb : middle.setAll b = .ok last) :
    draft.setAll (a ++ b) = .ok last := by
  induction a generalizing draft with
  | nil =>
    obtain rfl := Except.ok.inj ha
    exact hb
  | cons setting a ih =>
    rw [setAll] at ha
    rw [List.cons_append, setAll]
    cases hset : draft.set setting.1 setting.2 with
    | error cause =>
      rw [hset] at ha
      contradiction
    | ok next =>
      rw [hset] at ha
      exact ih ha

/-- A setting changes the draft if it is present. -/
lemma Draft.setAll_written {α : Type} {key : Key} {write : α → List Char} {draft : Draft}
    (put : Option α → Draft) (hnone : put none = draft) {value : Option α}
    (hsome : ∀ v, value = some v → draft.set key (write v) = .ok (put v)) :
    draft.setAll (written key write value) = .ok (put value) := by
  cases value with
  | none => rw [written, setAll, hnone]
  | some v =>
    rw [written, setAll, hsome v rfl]
    rfl

namespace Draft

variable {draft : Draft}

lemma setAll_groups (hdraft : draft.groups = none) {table : Option (Table Group)}
    (h : ∀ groups, table = some groups →
      readGroups (writeGroups groups) = .ok (groups.values.map (·.tests))) :
    draft.setAll (written .groups writeGroups table) =
      .ok { draft with groups := table.map fun groups => groups.values.map (·.tests) } := by
  let put (table : Option (Table Group)) : Draft :=
    { draft with groups := table.map fun groups => groups.values.map (·.tests) }
  have hnone : put none = draft := by
    simp only [put, Option.map_none, ← hdraft]
  refine setAll_written put hnone fun groups hsome => ?_
  rw [set, h groups hsome]
  rfl

lemma setAll_weights (hdraft : draft.weights = none) {table : Option (Table Group)}
    (h : ∀ groups, table = some groups →
      readWeights (writeWeights groups) = .ok (groups.values.map (·.score))) :
    draft.setAll (written .weights writeWeights table) =
      .ok { draft with weights := table.map fun groups => groups.values.map (·.score) } := by
  let put (table : Option (Table Group)) : Draft :=
    { draft with weights := table.map fun groups => groups.values.map (·.score) }
  have hnone : put none = draft := by
    simp only [put, Option.map_none, ← hdraft]
  refine setAll_written put hnone fun groups hsome => ?_
  rw [set, h groups hsome]
  rfl

/-- A setting that is read back into its own field. -/
lemma setAll_field {α : Type} {key : Key} {write : α → List Char}
    (put : Properties → Option α → Properties) (hput : put draft.properties none = draft.properties)
    {value : Option α} (h : ∀ v, value = some v → draft.set key (write v) =
      .ok { draft with properties := put draft.properties v }) :
    draft.setAll (written key write value) =
      .ok { draft with properties := put draft.properties value } :=
  setAll_written (fun value => { draft with properties := put draft.properties value })
    (by simp only [hput]) h

end Draft

namespace Properties

variable {p : Properties} {time : Decimal.Binary64 → Decimal.Binary64} {memory : Int → Int}

/-- Groups that count from one are what their tests and scores are paired to. -/
lemma ofList_zip {groups : Table Group}
    (hkeys : groups.keys = (List.range groups.size).map fun i : Nat => (i : Int) + 1) :
    Table.ofList (((groups.values.map (·.tests)).zip (groups.values.map (·.score))).mapIdx
      fun i (tests, score) => ((i : Int) + 1, ({ score, tests } : Group))) = groups := by
  apply Table.ext
  have hentries := Table.entries_ofList_mapIdx
    ((groups.values.map (·.tests)).zip (groups.values.map (·.score)))
    fun _ p => ({ score := p.2, tests := p.1 } : Group)
  rw [Table.entries_of_counting hkeys]
  refine hentries.trans ?_
  rw [List.zip_map']
  apply List.ext_getElem
  · simp
  · intro i _ _
    simp

section Draft

variable {groups : Option (List (List Int))} {weights : Option (List Int)}

/-- The groups, the limits and the points of the settings are read back. -/
lemma setAll_limits (h : p.Rereads time memory) :
    Draft.setAll {} (written .groups writeGroups p.subtasks ++
      written .weights writeWeights p.subtasks ++ written .time (Decimal.writeFixed 6) p.timeLimit ++
      written .memory writeMegabytes p.memoryLimit ++
      written .defaultScore Decimal.writeInt p.defaultPoints) = .ok {
        groups := p.subtasks.map fun groups => groups.values.map (·.tests)
        weights := p.subtasks.map fun groups => groups.values.map (·.score)
        properties := {
          timeLimit := p.timeLimit.map time, memoryLimit := p.memoryLimit.map memory,
          defaultPoints := p.defaultPoints } } := by
  obtain ⟨subtasks, timeLimit, memoryLimit, defaultPoints⟩ := p
  let readTime := timeLimit.map time
  let readMemory := memoryLimit.map memory
  let groups := subtasks.map fun groups : Table Group => groups.values.map (·.tests)
  let weights := subtasks.map fun groups : Table Group => groups.values.map (·.score)
  have hgroups : Draft.setAll {} (written .groups writeGroups subtasks) = .ok { groups } :=
    Draft.setAll_groups rfl fun table hp => readGroups_writeGroups (h.groups table hp).1
      fun group hg => ((h.groups table hp).2.2 group hg).2
  have hweights : Draft.setAll { groups } (written .weights writeWeights subtasks) =
      .ok { groups, weights } :=
    Draft.setAll_weights rfl fun table hp => readWeights_writeWeights (h.groups table hp).1
      fun group hg => ((h.groups table hp).2.2 group hg).1
  have htime : Draft.setAll { groups, weights }
      (written .time (Decimal.writeFixed 6) timeLimit) =
        .ok { groups, weights, properties := { timeLimit := readTime } } :=
    Draft.setAll_field (fun p limit => { p with timeLimit := limit.map time }) rfl fun limit hp => by
      rw [Draft.set, h.timeLimit limit hp]
      rfl
  have hmemory : Draft.setAll { groups, weights, properties := { timeLimit := readTime } }
      (written .memory writeMegabytes memoryLimit) =
        .ok { groups, weights, properties := { timeLimit := readTime, memoryLimit := readMemory } } :=
    Draft.setAll_field (fun p limit => { p with memoryLimit := limit.map memory }) rfl
      fun limit hp => by
        obtain ⟨read, hread, hkilobytes⟩ := h.memoryLimit limit hp
        rw [Draft.set, hread, Option.map_some, ← hkilobytes]
        rfl
  have hpoints : Draft.setAll
      { groups, weights, properties := { timeLimit := readTime, memoryLimit := readMemory } }
      (written .defaultScore Decimal.writeInt defaultPoints) =
        .ok { groups, weights, properties :=
          { timeLimit := readTime, memoryLimit := readMemory, defaultPoints } } :=
    Draft.setAll_field (fun p defaultPoints => { p with defaultPoints }) rfl fun points hp => by
      obtain ⟨hbounds, hnonneg⟩ := h.defaultPoints points hp
      rw [Draft.set, readNonNegative_writeInt _ hbounds hnonneg]
      rfl
  have hdraft := Draft.setAll_append (Draft.setAll_append hgroups hweights) htime
  exact Draft.setAll_append (Draft.setAll_append hdraft hmemory) hpoints

lemma setAll_credits (h : ∀ size, p.sourceSize = some size →
    Decimal.int64.contains size = true ∧ 0 ≤ size) :
    Draft.setAll { groups, weights, properties := {
        timeLimit := p.timeLimit, memoryLimit := p.memoryLimit, defaultPoints := p.defaultPoints } }
      (written .author String.toList p.author ++ written .source String.toList p.source ++
        written .sourceSize Decimal.writeInt p.sourceSize) = .ok {
          groups, weights, properties := { p with
            subtasks := none, consoleInput := none, testName := none, tags := none,
            scoringStrategy := none } } := by
  obtain ⟨subtasks, timeLimit, memoryLimit, defaultPoints, author, source, consoleInput, testName,
    tags, sourceSize, scoringStrategy⟩ := p
  let limits : Properties := { timeLimit, memoryLimit, defaultPoints }
  have hauthor : Draft.setAll { groups, weights, properties := limits }
      (written .author String.toList author) =
        .ok { groups, weights, properties := { limits with author } } :=
    Draft.setAll_field (fun p author => { p with author }) rfl fun text _ => by
      rw [Draft.set, String.ofList_toList]
      rfl
  have hsource : Draft.setAll { groups, weights, properties := { limits with author } }
      (written .source String.toList source) =
        .ok { groups, weights, properties := { limits with author, source } } :=
    Draft.setAll_field (fun p source => { p with source }) rfl fun text _ => by
      rw [Draft.set, String.ofList_toList]
      rfl
  have hsize : Draft.setAll { groups, weights, properties := { limits with author, source } }
      (written .sourceSize Decimal.writeInt sourceSize) =
        .ok { groups, weights, properties := { limits with author, source, sourceSize } } :=
    Draft.setAll_field (fun p sourceSize => { p with sourceSize }) rfl fun size hp => by
      obtain ⟨hbounds, hnonneg⟩ := h size hp
      rw [Draft.set, readNonNegative_writeInt _ hbounds hnonneg]
      rfl
  exact Draft.setAll_append (Draft.setAll_append hauthor hsource) hsize

/-- The other settings are read back, apart from what quoting does to tags. -/
lemma setAll_rest :
    Draft.setAll { groups, weights, properties := { p with
        subtasks := none, consoleInput := none, testName := none, tags := none,
        scoringStrategy := none } }
      (written .consoleInput writeFlag p.consoleInput ++
        written .testName String.toList p.testName ++
        written .scoringStrategy String.toList p.scoringStrategy ++
        written .tags writeTags p.tags) = .ok {
          groups, weights, properties :=
            { p with subtasks := none, tags := p.tags.map rereadTags } } := by
  obtain ⟨subtasks, timeLimit, memoryLimit, defaultPoints, author, source, consoleInput, testName,
    tags, sourceSize, scoringStrategy⟩ := p
  let rest : Properties :=
    { timeLimit, memoryLimit, defaultPoints, author, source, sourceSize }
  have hconsole : Draft.setAll { groups, weights, properties := rest }
      (written .consoleInput writeFlag consoleInput) =
        .ok { groups, weights, properties := { rest with consoleInput } } :=
    Draft.setAll_field (fun p consoleInput => { p with consoleInput }) rfl fun flag _ => by
      rw [Draft.set, readFlag_writeFlag]
      rfl
  have hname : Draft.setAll { groups, weights, properties := { rest with consoleInput } }
      (written .testName String.toList testName) =
        .ok { groups, weights, properties := { rest with consoleInput, testName } } :=
    Draft.setAll_field (fun p testName => { p with testName }) rfl fun text _ => by
      rw [Draft.set, String.ofList_toList]
      rfl
  have hstrategy : Draft.setAll
      { groups, weights, properties := { rest with consoleInput, testName } }
      (written .scoringStrategy String.toList scoringStrategy) =
        .ok { groups, weights, properties :=
          { rest with consoleInput, testName, scoringStrategy } } :=
    Draft.setAll_field (fun p scoringStrategy => { p with scoringStrategy }) rfl fun text _ => by
      rw [Draft.set, String.ofList_toList]
      rfl
  have htags : Draft.setAll
      { groups, weights, properties := { rest with consoleInput, testName, scoringStrategy } }
      (written .tags writeTags tags) =
        .ok { groups, weights, properties :=
          { rest with consoleInput, testName, scoringStrategy, tags := tags.map rereadTags } } :=
    Draft.setAll_field (fun p tags => { p with tags := tags.map rereadTags }) rfl fun list _ => by
      rw [Draft.set, readTags_writeTags]
      rfl
  exact Draft.setAll_append (Draft.setAll_append (Draft.setAll_append hconsole hname) hstrategy) htags

end Draft

/-- Written settings are read back, apart from what becomes of limits and of tags. -/
theorem ofText_toText_limits (h : p.Rereads time memory) :
    ofText p.toText = .ok { p with
      timeLimit := p.timeLimit.map time, memoryLimit := p.memoryLimit.map memory,
      tags := p.tags.map rereadTags } := by
  let limited : Properties :=
    { p with timeLimit := p.timeLimit.map time, memoryLimit := p.memoryLimit.map memory }
  have hcredits := @setAll_credits limited
    (p.subtasks.map fun groups => groups.values.map (·.tests))
    (p.subtasks.map fun groups => groups.values.map (·.score)) h.sourceSize
  have hdraft := Draft.setAll_append (Draft.setAll_append (setAll_limits h) hcredits)
    (@setAll_rest limited _ _)
  simp only [← List.append_assoc] at hdraft
  rw [ofText_eq, toText_eq, filterMap_settingOf (isLine_settings h)]
  rw [show Draft.setAll {} p.settings = _ from hdraft]
  change Draft.finish _ = _
  cases hp : p.subtasks with
  | none =>
    simp only [limited, Draft.finish, Option.map_none]
  | some table =>
    have hlength : (table.values.map (·.tests)).length = (table.values.map (·.score)).length := by
      rw [List.length_map, List.length_map]
    simp only [limited, Draft.finish, Option.map_some, if_pos hlength]
    rw [ofList_zip (h.groups table hp).2.1]

/-- Written settings are read back; the tags are the only one that may differ. -/
theorem ofText_toText (h : p.Portable) :
    ofText p.toText = .ok { p with tags := p.tags.map rereadTags } := by
  rw [ofText_toText_limits h, Option.map_id, Option.map_id]
  rfl

end Properties

end Judge.Archive
