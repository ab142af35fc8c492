import Judge.Archive.Properties.Writer
import Judge.Proofs.Archive.Settings
import Judge.Proofs.Archive.Tags
import Judge.Proofs.Decimal.Fixed
import Judge.Proofs.Basic
import Judge.Proofs.Text.Lines

/-!
Reading back written settings: every setting stands on a line of its own, and each value is read as
it was written if it fits its type and its text is one trimmed line.
-/

namespace Judge.Archive

open Text (trim isBlank)

/-- A value that can stand on a line: one line, without blanks at its ends. -/
def IsLine (value : List Char) : Prop := '\n' ∉ value ∧ trim value = value

lemma isLine_of_noBlank {value : List Char} (h : ∀ c ∈ value, isBlank c = false) : IsLine value := by
  refine ⟨fun hmem => ?_, Text.trim_of_noBlank h⟩
  have := h '\n' hmem
  exact absurd this (by decide)

/-- What a setting adds to the lines, if it is present. -/
def written {α : Type} (key : Key) (write : α → List Char) : Option α → List (Key × List Char)
  | none => []
  | some value => [(key, write value)]

/-- The settings that are present, in the order in which they are written. -/
def Properties.settings (p : Properties) : List (Key × List Char) :=
  written .groups writeGroups p.subtasks ++
  written .weights writeWeights p.subtasks ++
  written .time (Decimal.writeFixed 6) p.timeLimit ++
  written .memory writeMegabytes p.memoryLimit ++
  written .defaultScore Decimal.writeInt p.defaultPoints ++
  written .author String.toList p.author ++
  written .source String.toList p.source ++
  written .sourceSize Decimal.writeInt p.sourceSize ++
  written .consoleInput writeFlag p.consoleInput ++
  written .testName String.toList p.testName ++
  written .scoringStrategy String.toList p.scoringStrategy ++
  written .tags writeTags p.tags

lemma flatMap_written {α : Type} (key : Key) (write : α → List Char) (value : Option α) :
    ((written key write value).flatMap fun s => settingLine s.1 s.2) =
      optionalLine key write value := by
  cases value <;> simp [written, optionalLine]

theorem Properties.toText_eq (p : Properties) :
    p.toText = p.settings.flatMap fun s => settingLine s.1 s.2 := by
  simp only [settings, List.flatMap_append, flatMap_written]
  rfl

/-- The text of a setting without its line end. -/
def lineOf (setting : Key × List Char) : List Char :=
  setting.1.name.toList ++ '=' :: setting.2

lemma name_facts (key : Key) : '\n' ∉ key.name.toList ∧ '=' ∉ key.name.toList ∧
    trim key.name.toList = key.name.toList ∧
    ∃ c rest, key.name.toList = c :: rest ∧ isBlank c = false ∧ c ≠ '#' := by
  cases key <;> exact ⟨by decide, by decide, by decide, _, _, rfl, by decide, by decide⟩

lemma getLast?_lineOf {setting : Key × List Char} (h : IsLine setting.2) {c : Char}
    (hc : c ∈ (lineOf setting).getLast?) : isBlank c = false := by
  obtain ⟨key, value⟩ := setting
  rcases List.eq_nil_or_concat value with hnil | ⟨front, d, hd⟩
  · obtain rfl : '=' = c := by simpa [lineOf, hnil] using hc
    decide
  · have hline : lineOf (key, value) = (key.name.toList ++ '=' :: front) ++ [d] := by
      simp [lineOf, hd]
    rw [hline, List.getLast?_concat] at hc
    have hlast : c ∈ (trim value).getLast? := by
      rw [h.2, hd, List.concat_eq_append, List.getLast?_concat]
      exact hc
    exact Text.getLast?_trim hlast

lemma settingOf_lineOf {setting : Key × List Char} (h : IsLine setting.2) :
    settingOf (lineOf setting) = some setting := by
  obtain ⟨-, hequals, hname, c, rest, hcons, hblank, hhash⟩ := name_facts setting.1
  have htrim : trim (lineOf setting) = lineOf setting := by
    apply Text.trim_eq_self
    · intro d hd
      obtain rfl : c = d := by simpa [lineOf, hcons] using hd
      exact hblank
    · exact fun d hd => getLast?_lineOf h hd
  have hline : lineOf setting = c :: (rest ++ '=' :: setting.2) := by simp [lineOf, hcons]
  have hcut := Text.cut_append hequals setting.2
  rw [settingOf, htrim]
  split
  · next heq => simp [hline] at heq
  · next heq =>
    rw [hline] at heq
    exact absurd (List.cons.inj heq).1 hhash
  · rw [lineOf, hcut]
    simp [hname, h.2]

/-- Settings whose values can stand on lines are read back. -/
theorem filterMap_settingOf {settings : List (Key × List Char)} (h : ∀ s ∈ settings, IsLine s.2) :
    (Text.lines (settings.flatMap fun s => settingLine s.1 s.2)).filterMap settingOf = settings := by
  have hlines : (settings.flatMap fun s => settingLine s.1 s.2) =
      (settings.map lineOf).flatMap fun line => line ++ ['\n'] := by
    rw [List.flatMap_map]
    simp only [settingLine, lineOf]
  rw [hlines, Text.lines_flatMap]
  · rw [List.filterMap_map]
    conv_rhs => rw [← List.filterMap_some (l := settings)]
    exact List.filterMap_congr fun s hs => settingOf_lineOf (h s hs)
  · intro line hline
    obtain ⟨s, hs, rfl⟩ := List.mem_map.mp hline
    simp only [lineOf, List.mem_append, List.mem_cons, not_or]
    exact ⟨(name_facts s.1).1, by decide, (h s hs).1⟩
  · intro line hline hcr
    obtain ⟨s, hs, rfl⟩ := List.mem_map.mp hline
    exact absurd (getLast?_lineOf (h s hs) hcr) (by decide)

section Values

open Decimal (int32 int64 writeInt)

lemma readNumber_writeInt {bounds : Decimal.Bounds} (key : Key) {n : Int}
    (h : bounds.contains n = true) : readNumber bounds key (writeInt n) = .ok n := by
  rw [readNumber, Decimal.readInteger?_writeInt h]

lemma readNonNegative_writeInt {bounds : Decimal.Bounds} (key : Key) {n : Int}
    (h : bounds.contains n = true) (hn : 0 ≤ n) :
    readNonNegative bounds key (writeInt n) = .ok n := by
  rw [readNonNegative, readNumber_writeInt key h]
  simp only [bind, Except.bind]
  rw [if_neg (by omega)]

lemma readFlag_writeFlag (key : Key) (flag : Bool) : readFlag key (writeFlag flag) = .ok flag := by
  cases flag <;> rfl

lemma notMem_writeInt {n : Int} {c : Char} (hdigit : c.isDigit = false) (hminus : c ≠ '-') :
    c ∉ writeInt n := by
  intro h
  rcases Decimal.mem_writeInt h with h | h
  · simp [h] at hdigit
  · exact hminus h

lemma trim_writeInt (n : Int) : trim (writeInt n) = writeInt n :=
  Text.trim_of_noBlank fun _ => Decimal.not_isBlank_of_mem_writeInt

/-- A group is read back, also if it lists no tests. -/
lemma readGroup_writeGroup {group : Group}
    (h : ∀ number ∈ group.tests, int32.contains number = true) :
    readGroup (writeGroup group) = .ok group.tests := by
  have hread : (group.tests.map writeInt).mapM (readNumber int32 .groups) = .ok group.tests := by
    have := mapM_map_eq_ok (f := readNumber int32 .groups) (h := id)
      fun number hn => readNumber_writeInt .groups (h number hn)
    simpa using this
  rw [readGroup, writeGroup]
  by_cases hne : group.tests = []
  · rw [hne]
    rfl
  · rw [Text.splitAt_join (by simpa using hne)]
    · have htrim : trim ∘ writeInt = writeInt := funext trim_writeInt
      rw [List.map_map, htrim, List.filter_eq_self.mpr, hread]
      intro piece hpiece
      obtain ⟨number, -, rfl⟩ := List.mem_map.mp hpiece
      simp [Decimal.writeInt_ne_nil]
    · intro piece hpiece
      obtain ⟨number, -, rfl⟩ := List.mem_map.mp hpiece
      exact notMem_writeInt (by decide) (by decide)

lemma readGroups_writeGroups {groups : Table Group} (hne : groups.values ≠ [])
    (h : ∀ group ∈ groups.values, ∀ number ∈ group.tests, int32.contains number = true) :
    readGroups (writeGroups groups) = .ok (groups.values.map (·.tests)) := by
  rw [readGroups, writeGroups, Text.splitAt_join (by simpa using hne)]
  · exact mapM_map_eq_ok fun group hg => readGroup_writeGroup (h group hg)
  · intro piece hpiece hcomma
    obtain ⟨group, -, rfl⟩ := List.mem_map.mp hpiece
    rcases Text.mem_join hcomma with hcomma | ⟨text, htext, hcomma⟩
    · exact absurd hcomma (by decide)
    · obtain ⟨number, -, rfl⟩ := List.mem_map.mp htext
      exact notMem_writeInt (by decide) (by decide) hcomma

lemma readWeights_writeWeights {groups : Table Group} (hne : groups.values ≠ [])
    (h : ∀ group ∈ groups.values, int32.contains group.score = true) :
    readWeights (writeWeights groups) = .ok (groups.values.map (·.score)) := by
  rw [readWeights, writeWeights, Text.splitAt_join (by simpa using hne)]
  · rw [List.map_map]
    refine mapM_map_eq_ok fun group hg => ?_
    rw [Function.comp_apply, trim_writeInt, readNumber_writeInt .weights (h group hg)]
  · intro piece hpiece
    obtain ⟨group, -, rfl⟩ := List.mem_map.mp hpiece
    exact notMem_writeInt (by decide) (by decide)

end Values

end Judge.Archive
