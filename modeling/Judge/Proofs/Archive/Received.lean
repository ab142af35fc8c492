import Judge.Proofs.Basic
import Judge.Proofs.Archive.Reread

/-!
What reading gives: limits that are finite and not negative, numbers that fit their types, and texts
of one trimmed line. Settings of this kind can be written and read again, though limits may come
back rounded.
-/

namespace Judge

namespace Text

lemma mem_of_mem_trim {c : Char} {text : List Char} (h : c ∈ trim text) : c ∈ text := by
  have hfront := trimEnd_prefix (trimStart text)
  exact (List.dropWhile_suffix _).subset (hfront.subset h)

end Text

namespace Archive

open Decimal (int32 int64 Binary64)

/-- The value on a line can stand on a line. -/
lemma isLine_of_settingOf {line value : List Char} {key : Key} (hline : '\n' ∉ line)
    (h : settingOf line = some (key, value)) : IsLine value := by
  have hvalue : ∃ before after, Text.cut '=' (Text.trim line) = some (before, after) ∧
      value = Text.trim after := by
    unfold settingOf at h
    split at h
    · contradiction
    · contradiction
    · obtain ⟨⟨before, after⟩, hcut, h⟩ := Option.bind_eq_some_iff.mp h
      obtain ⟨key, -, h⟩ := Option.bind_eq_some_iff.mp h
      exact ⟨before, after, hcut, (congrArg Prod.snd (Option.some.inj h)).symm⟩
  obtain ⟨before, after, hcut, rfl⟩ := hvalue
  refine ⟨fun hmem => hline (Text.mem_of_mem_trim ?_), Text.trim_trim _⟩
  rw [Text.eq_of_cut hcut]
  exact List.mem_append_right _ (List.mem_cons_of_mem _ (Text.mem_of_mem_trim hmem))

/-- A limit as reading gives it. -/
structure IsLimit (limit : Binary64) : Prop where
  finite : limit.isFinite = true
  nonneg : limit.lt .zero = false
  representable : limit.Representable

section Limits

variable {key : Key} {value : List Char} {limit : Binary64}

lemma isLimit_of_readLimit (h : readLimit key value = .ok limit) : IsLimit limit := by
  rw [readLimit] at h
  split at h
  · next read hread =>
    split at h
    · next hcond =>
      obtain rfl := Except.ok.inj h
      simp only [Bool.and_eq_true, Bool.not_eq_true'] at hcond
      exact ⟨hcond.1, hcond.2, Decimal.representable_of_readReal? hread⟩
    · contradiction
  · contradiction

/-- A limit is a number of steps, or zero with a minus sign. -/
lemma IsLimit.cases (h : IsLimit limit) :
    (∃ steps, limit = .finite false steps) ∨ limit = .finite true 0 := by
  cases limit with
  | nan => exact absurd h.finite (by simp [Binary64.isFinite])
  | infinite negative => exact absurd h.finite (by simp [Binary64.isFinite])
  | finite negative steps =>
    cases negative with
    | false => exact .inl ⟨steps, rfl⟩
    | true =>
      have hnonneg := h.nonneg
      simp only [Binary64.lt, Binary64.zero, Binary64.signedSteps, if_true, decide_eq_false_iff_not]
        at hnonneg
      obtain rfl : steps = 0 := by
        simp only [Bool.false_eq_true, if_false] at hnonneg
        omega
      exact .inr rfl

/-- A limit that is written can be read. -/
theorem IsLimit.exists_readLimit (h : IsLimit limit) (key : Key) :
    ∃ read, readLimit key (Decimal.writeFixed 6 limit) = .ok read := by
  rcases h.cases with ⟨steps, rfl⟩ | rfl
  · obtain ⟨read, hread⟩ := Decimal.exists_readReal?_writeFixed h.representable
    refine ⟨.finite false read, ?_⟩
    rw [readLimit, hread]
    simp [Binary64.isFinite, Binary64.lt, Binary64.zero, Binary64.signedSteps]
  · refine ⟨.finite true 0, ?_⟩
    have hread : Decimal.readReal? (Decimal.writeFixed 6 (.finite true 0)) =
        some (.finite true 0) := by decide +kernel
    rw [readLimit, hread]
    rfl

/-- A number of kilobytes fits its type and is not negative. -/
lemma IsLimit.contains_kilobytes (h : IsLimit limit) :
    int64.contains (kilobytes limit) = true ∧ 0 ≤ kilobytes limit := by
  have hclamp : ∀ n : Int, 0 ≤ n →
      int64.contains (int64.clamp n) = true ∧ 0 ≤ int64.clamp n := by
    intro n hn
    rw [Decimal.Bounds.contains_iff]
    simp only [Decimal.Bounds.clamp, int64]
    omega
  have hround : ∀ {n : Int}, (limit.mul (.ofInt 1024)).round? = some n → 0 ≤ n := by
    intro n hn
    have hthousand : Binary64.ofInt 1024 = .finite false (1024 * Binary64.one) := by decide +kernel
    rcases h.cases with ⟨steps, rfl⟩ | rfl
    · rw [hthousand] at hn
      exact Binary64.round?_mul_nonneg hn
    · have hzero : (Binary64.mul (.finite true 0) (.ofInt 1024)).round? = some 0 := by
        decide +kernel
      obtain rfl := Option.some.inj (hzero.symm.trans hn)
      exact Int.le_refl 0
  rw [kilobytes]
  split
  · next n hn => exact hclamp n (hround hn)
  · decide

/-- A number of kilobytes that is written in megabytes can be read. -/
theorem exists_readLimit_writeMegabytes {memory : Int} (hsize : int64.contains memory = true)
    (hnonneg : 0 ≤ memory) : ∃ read, readLimit .memory (writeMegabytes memory) = .ok read := by
  have hle := (Decimal.Bounds.contains_iff.mp hsize).2
  obtain ⟨steps, hmoderate, hdiv⟩ := Decimal.div_1024_eq_finite hnonneg hle
  obtain ⟨read, hread⟩ := Decimal.readReal?_writeFixed hmoderate
  refine ⟨.finite false read, ?_⟩
  rw [readLimit, writeMegabytes, hdiv, hread]
  simp [Binary64.isFinite, Binary64.lt, Binary64.zero, Binary64.signedSteps]

end Limits

/-- Settings as reading gives them. -/
structure Properties.Received (p : Properties) : Prop where
  groups : ∀ groups, p.subtasks = some groups → groups.values ≠ [] ∧
    groups.keys = ((List.range groups.size).map fun i : Nat => (i : Int) + 1) ∧
    ∀ group ∈ groups.values, int32.contains group.score = true ∧
      ∀ number ∈ group.tests, int32.contains number = true
  timeLimit : ∀ limit, p.timeLimit = some limit → IsLimit limit
  memoryLimit : ∀ limit, p.memoryLimit = some limit → int64.contains limit = true ∧ 0 ≤ limit
  defaultPoints : ∀ points, p.defaultPoints = some points →
    int32.contains points = true ∧ 0 ≤ points
  sourceSize : ∀ size, p.sourceSize = some size → int64.contains size = true ∧ 0 ≤ size
  author : ∀ text, p.author = some text → IsLine text.toList
  source : ∀ text, p.source = some text → IsLine text.toList
  testName : ∀ text, p.testName = some text → IsLine text.toList
  scoringStrategy : ∀ text, p.scoringStrategy = some text → IsLine text.toList

/-- Settings of this kind are read again when they were written, though limits may be rounded. -/
theorem Properties.Received.exists_rereads {p : Properties} (h : p.Received) :
    ∃ time memory, p.Rereads time memory := by
  obtain ⟨time, htime⟩ : ∃ time : Binary64 → Binary64, ∀ limit, p.timeLimit = some limit →
      readLimit .time (Decimal.writeFixed 6 limit) = .ok (time limit) := by
    cases hlimit : p.timeLimit with
    | none => exact ⟨id, by simp⟩
    | some limit =>
      obtain ⟨read, hread⟩ := (h.timeLimit limit hlimit).exists_readLimit .time
      exact ⟨fun _ => read, fun _ heq => Option.some.inj heq ▸ hread⟩
  obtain ⟨memory, hmemory⟩ : ∃ memory : Int → Int, ∀ limit, p.memoryLimit = some limit →
      ∃ read, readLimit .memory (writeMegabytes limit) = .ok read ∧
        kilobytes read = memory limit := by
    cases hlimit : p.memoryLimit with
    | none => exact ⟨id, by simp⟩
    | some limit =>
      obtain ⟨hsize, hnonneg⟩ := h.memoryLimit limit hlimit
      obtain ⟨read, hread⟩ := exists_readLimit_writeMegabytes hsize hnonneg
      exact ⟨fun _ => kilobytes read, fun _ heq => ⟨read, Option.some.inj heq ▸ hread, rfl⟩⟩
  exact ⟨time, memory, { h with timeLimit := htime, memoryLimit := hmemory }⟩

/-- The groups are the same then. -/
theorem Properties.Received.exists_ofText {p : Properties} (h : p.Received) :
    ∃ read, ofText p.toText = .ok read ∧ read.subtasks = p.subtasks := by
  obtain ⟨time, memory, hrereads⟩ := h.exists_rereads
  exact ⟨_, ofText_toText_limits hrereads, rfl⟩

section Read

variable {value : List Char} {bounds : Decimal.Bounds} {key : Key}

lemma contains_of_readNumber (hbounds : bounds.contains 0 = true) {n : Int}
    (h : readNumber bounds key value = .ok n) : bounds.contains n = true := by
  rw [readNumber] at h
  split at h
  · next hread => exact Except.ok.inj h ▸ Decimal.contains_of_readInteger? hbounds hread
  · contradiction

lemma contains_of_readNonNegative (hbounds : bounds.contains 0 = true) {n : Int}
    (h : readNonNegative bounds key value = .ok n) : bounds.contains n = true ∧ 0 ≤ n := by
  cases hread : readNumber bounds key value with
  | error cause =>
    rw [readNonNegative, hread] at h
    contradiction
  | ok m =>
    rw [readNonNegative, hread] at h
    simp only [bind, Except.bind] at h
    split at h
    · contradiction
    · obtain rfl := Except.ok.inj h
      exact ⟨contains_of_readNumber hbounds hread, by omega⟩

lemma contains_of_readGroup {tests : List Int} (h : readGroup value = .ok tests) :
    ∀ number ∈ tests, int32.contains number = true :=
  forall_mem_of_forall₂ (forall₂_of_mapM h) fun _ _ => contains_of_readNumber (by decide)

lemma contains_of_readGroups {lists : List (List Int)} (h : readGroups value = .ok lists) :
    lists ≠ [] ∧ ∀ tests ∈ lists, ∀ number ∈ tests, int32.contains number = true := by
  have hall := forall₂_of_mapM h
  refine ⟨List.ne_nil_of_length_pos ?_, forall_mem_of_forall₂ hall fun _ _ => contains_of_readGroup⟩
  rw [← hall.length_eq]
  exact List.length_pos_of_ne_nil (Text.splitAt_ne_nil _ _)

lemma contains_of_readWeights {weights : List Int} (h : readWeights value = .ok weights) :
    ∀ weight ∈ weights, int32.contains weight = true :=
  forall_mem_of_forall₂ (forall₂_of_mapM h) fun _ _ => contains_of_readNumber (by decide)

end Read

namespace Draft

/-- What the lines so far say, as reading gives it. -/
structure Received (draft : Draft) : Prop where
  properties : draft.properties.Received
  subtasks : draft.properties.subtasks = none
  groups : ∀ lists, draft.groups = some lists → lists ≠ [] ∧
    ∀ tests ∈ lists, ∀ number ∈ tests, int32.contains number = true
  weights : ∀ weights, draft.weights = some weights →
    ∀ weight ∈ weights, int32.contains weight = true

lemma forall_some {α : Type} {P : α → Prop} {a : α} (h : P a) : ∀ b, some a = some b → P b := by
  rintro _ ⟨⟩
  exact h

/-- One more line keeps this. -/
theorem Received.set {draft next : Draft} {key : Key} {value : List Char} (h : draft.Received)
    (hvalue : IsLine value) (hset : draft.set key value = .ok next) : next.Received := by
  have hline : IsLine (String.ofList value).toList := by rwa [String.toList_ofList]
  have htext : ∀ text, some (String.ofList value) = some text → IsLine text.toList :=
    forall_some hline
  cases key with
  | groups =>
    obtain ⟨lists, hread, hnext⟩ := exists_of_bind_eq_ok hset
    obtain rfl := Except.ok.inj hnext
    exact { h with groups := forall_some (contains_of_readGroups hread) }
  | weights =>
    obtain ⟨weights, hread, hnext⟩ := exists_of_bind_eq_ok hset
    obtain rfl := Except.ok.inj hnext
    exact { h with weights := forall_some (contains_of_readWeights hread) }
  | time =>
    obtain ⟨limit, hread, hnext⟩ := exists_of_bind_eq_ok hset
    obtain rfl := Except.ok.inj hnext
    have htime := forall_some (isLimit_of_readLimit hread)
    exact { h with properties := { h.properties with timeLimit := htime } }
  | memory =>
    obtain ⟨limit, hread, hnext⟩ := exists_of_bind_eq_ok hset
    obtain rfl := Except.ok.inj hnext
    have hkilobytes := (isLimit_of_readLimit hread).contains_kilobytes
    exact { h with properties := { h.properties with memoryLimit := forall_some hkilobytes } }
  | defaultScore =>
    obtain ⟨points, hread, hnext⟩ := exists_of_bind_eq_ok hset
    obtain rfl := Except.ok.inj hnext
    have hpoints := contains_of_readNonNegative (by decide) hread
    exact { h with properties := { h.properties with defaultPoints := forall_some hpoints } }
  | sourceSize =>
    obtain ⟨size, hread, hnext⟩ := exists_of_bind_eq_ok hset
    obtain rfl := Except.ok.inj hnext
    have hsize := contains_of_readNonNegative (by decide) hread
    exact { h with properties := { h.properties with sourceSize := forall_some hsize } }
  | consoleInput =>
    obtain ⟨flag, -, hnext⟩ := exists_of_bind_eq_ok hset
    obtain rfl := Except.ok.inj hnext
    exact { h with properties := { h.properties with } }
  | tags =>
    obtain ⟨tags, -, hnext⟩ := exists_of_bind_eq_ok hset
    obtain rfl := Except.ok.inj hnext
    exact { h with properties := { h.properties with } }
  | author =>
    obtain rfl := Except.ok.inj hset
    exact { h with properties := { h.properties with author := htext } }
  | source =>
    obtain rfl := Except.ok.inj hset
    exact { h with properties := { h.properties with source := htext } }
  | testName =>
    obtain rfl := Except.ok.inj hset
    exact { h with properties := { h.properties with testName := htext } }
  | scoringStrategy =>
    obtain rfl := Except.ok.inj hset
    exact { h with properties := { h.properties with scoringStrategy := htext } }

lemma Received.setAll {draft last : Draft} {settings : List (Key × List Char)} (h : draft.Received)
    (hsettings : ∀ setting ∈ settings, IsLine setting.2) (hset : draft.setAll settings = .ok last) :
    last.Received := by
  induction settings generalizing draft with
  | nil => exact Except.ok.inj hset ▸ h
  | cons setting settings ih =>
    obtain ⟨next, hnext, hlast⟩ := exists_of_bind_eq_ok hset
    exact ih (h.set (hsettings setting (by simp)) hnext)
      (fun s hs => hsettings s (by simp [hs])) hlast

/-- Groups that are paired with weights fit their types as both do. -/
lemma Received.finish {draft : Draft} {p : Properties} (h : draft.Received)
    (hfinish : draft.finish = .ok p)
    (hkeys : ∀ groups, p.subtasks = some groups →
      groups.keys = (List.range groups.size).map fun i : Nat => (i : Int) + 1) : p.Received := by
  rw [Draft.finish] at hfinish
  split at hfinish
  · obtain rfl := Except.ok.inj hfinish
    exact h.properties
  · contradiction
  · contradiction
  · next lists weights hlists hweights =>
    split at hfinish
    · next hlength =>
      obtain rfl := Except.ok.inj hfinish
      refine { h.properties with groups := fun table htable => ⟨?_, hkeys table htable, ?_⟩ }
      all_goals
        obtain rfl := Option.some.inj htable
        have hentries := Table.entries_ofList_mapIdx (lists.zip weights)
          fun _ pair => ({ score := pair.2, tests := pair.1 } : Group)
        rw [Table.values]
      · have hzip : (lists.zip weights).length ≠ 0 := by
          have := List.length_pos_of_ne_nil (h.groups lists hlists).1
          rw [List.length_zip]
          omega
        rw [hentries, Ne, ← List.length_eq_zero_iff, List.length_map, List.length_mapIdx]
        exact hzip
      · rw [hentries]
        intro group hgroup
        obtain ⟨e, he, rfl⟩ := List.mem_map.mp hgroup
        obtain ⟨i, hi, rfl⟩ := List.mem_mapIdx.mp he
        have hpair := List.of_mem_zip (List.getElem_mem hi)
        exact ⟨h.weights weights hweights _ hpair.2, (h.groups lists hlists).2 _ hpair.1⟩
    · contradiction

end Draft

/-- Settings that were read are as reading gives them. -/
theorem Properties.received_of_ofText {text : List Char} {p : Properties} (h : ofText text = .ok p) :
    p.Received := by
  have hkeys := fun groups => @keys_of_ofText text p groups h
  rw [ofText_eq] at h
  obtain ⟨draft, hdraft, hfinish⟩ := exists_of_bind_eq_ok h
  have hstart : ({} : Draft).Received := by
    constructor
    case properties => constructor <;> rintro _ ⟨⟩
    case subtasks => rfl
    all_goals rintro _ ⟨⟩
  refine (hstart.setAll ?_ hdraft).finish hfinish hkeys
  intro setting hsetting
  obtain ⟨line, hline, hvalue⟩ := List.mem_filterMap.mp hsetting
  exact isLine_of_settingOf (Text.notMem_of_mem_linesFrom (by simp) hline) hvalue

/-- So are the settings of an archive. -/
theorem Content.received_settings {entries : List Entry} {p : Properties}
    (h : settings entries = some p) : p.Received := by
  obtain ⟨entry, -, hentry⟩ := Option.bind_eq_some_iff.mp h
  obtain ⟨text, -, htext⟩ := Option.bind_eq_some_iff.mp hentry
  cases hread : Properties.ofText text with
  | error cause => simp [hread, Except.toOption] at htext
  | ok other =>
    obtain rfl : other = p := by simpa [hread, Except.toOption] using htext
    exact Properties.received_of_ofText hread

section Numbers

variable {number points : Int}

lemma EntryName.contains_of_testNumber? {name : List Char} (h : testNumber? name = some number) :
    int32.contains number = true := by
  rw [testNumber?] at h
  split at h
  · next found hfound =>
    obtain rfl := Option.some.inj h
    rw [leadingNumber?] at hfound
    split at hfound
    · contradiction
    · exact Decimal.contains_of_readInteger? (by decide) hfound
    · contradiction
  · exact Decimal.contains_of_readInteger? (by decide) h

lemma EntryName.contains_of_kind {name : List Char}
    (h : kind name = .input number ∨ kind name = .output number) :
    int32.contains number = true := by
  rw [kind] at h
  split at h
  · simp at h
  split at h
  · simp at h
  split at h
  · simp at h
  next test htest =>
  have hnumber : test = number := by
    split at h
    · simpa using h
    split at h
    · simpa using h
    · simp at h
  exact hnumber ▸ contains_of_testNumber? htest

lemma Scan.contains_of_scoreLine? {line : List Char} (h : scoreLine? line = some (number, points)) :
    int32.contains number = true ∧ int32.contains points = true := by
  rw [scoreLine?] at h
  split at h
  · obtain ⟨first, hfirst, h⟩ := Option.bind_eq_some_iff.mp h
    obtain ⟨second, hsecond, h⟩ := Option.bind_eq_some_iff.mp h
    obtain ⟨rfl, rfl⟩ := Prod.mk.inj (Option.some.inj h)
    exact ⟨Decimal.contains_of_readInteger? (by decide) hfirst,
      Decimal.contains_of_readInteger? (by decide) hsecond⟩
  · contradiction

lemma Entry.contains_of_mem_scoreLines {entry : Entry} (h : (number, points) ∈ entry.scoreLines) :
    int32.contains number = true ∧ int32.contains points = true := by
  rw [scoreLines] at h
  split at h
  · obtain ⟨line, -, hline⟩ := List.mem_filterMap.mp h
    obtain ⟨text, -, htext⟩ := Option.bind_eq_some_iff.mp hline
    exact Scan.contains_of_scoreLine? htext
  · simp at h

lemma Entry.contains_of_kind {entry : Entry}
    (h : entry.kind = .input number ∨ entry.kind = .output number) :
    int32.contains number = true := by
  rw [kind] at h
  split at h
  · simp at h
  · exact EntryName.contains_of_kind h

/-- The tests of an archive have numbers of 32 bits. -/
theorem Content.contains_of_mem_testNumbers {entries : List Entry}
    (h : number ∈ testNumbers entries) : int32.contains number = true := by
  obtain ⟨entry, -, hentry⟩ := mem_testNumbers.mp h
  rw [Entry.numbers] at hentry
  split at hentry
  · next hkind =>
    obtain rfl := List.mem_singleton.mp hentry
    exact Entry.contains_of_kind (.inl hkind)
  · next hkind =>
    obtain rfl := List.mem_singleton.mp hentry
    exact Entry.contains_of_kind (.inr hkind)
  · obtain ⟨line, hline, rfl⟩ := List.mem_map.mp hentry
    exact (Entry.contains_of_mem_scoreLines hline).1
  · simp at hentry
  · simp at hentry

/-- And so are their scores, given or inferred. -/
theorem Content.contains_score (entries : List Entry) (number : Int) :
    int32.contains (score entries number) = true := by
  rw [score]
  split
  · next value hvalue =>
    obtain ⟨front, rest, hlines, -⟩ := List.lookup_eq_some_iff.mp hvalue
    have hmem : (number, value) ∈ scoreLines entries := by simp [hlines]
    obtain ⟨entry, -, hentry⟩ := List.mem_flatMap.mp hmem
    exact (Entry.contains_of_mem_scoreLines hentry).2
  · exact Decimal.contains_wrap32 _

end Numbers

end Archive
end Judge
