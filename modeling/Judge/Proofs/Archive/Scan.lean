import Judge.Archive.Import
import Judge.Proofs.Archive.Content

/-!
A scan knows exactly what the entries read so far hold, and it stops at the first entry that makes
the archive unreadable. The invariant is `Scan.Reads`; one lemma for each kind of entry keeps it.
-/

namespace Judge.Archive
namespace Scan

/-- A scan in terms of the positions of inputs and outputs, the tests, the score lines and the
settings that were read. -/
structure Holds (scan : Scan) (input output : Int → Option Nat) (numbers : List Int)
    (lines : List (Int × Int)) (settings : Option Properties) : Prop where
  test : ∀ number, scan.test number = ⟨input number, output number, (lines.lookup number).getD 0⟩
  known : ∀ number, number ∈ scan.tests.keys ↔ number ∈ numbers
  scored : scan.scored = lines.map (·.1)
  properties : scan.properties = settings

/-- A scan that has read exactly these entries. -/
def Reads (scan : Scan) (entries : List Entry) : Prop :=
  scan.Holds (fun number => Content.position entries (.input number))
    (fun number => Content.position entries (.output number)) (entries.flatMap Entry.numbers)
    (Content.scoreLines entries) (Content.settings entries)

theorem test_setTest (scan : Scan) (number other : Int) (files : TestFiles) :
    (scan.setTest number files).test other = if number = other then files else scan.test other := by
  simp only [test, setTest, Table.get?_insert]
  split <;> rfl

lemma test_of_mem {scan : Scan} {number : Int} {files : TestFiles}
    (h : (number, files) ∈ scan.tests.entries) : scan.test number = files := by
  simp [test, Table.get?_eq_some_iff.mpr h]

lemma mem_entries_of_known {scan : Scan} {number : Int} (h : number ∈ scan.tests.keys) :
    (number, scan.test number) ∈ scan.tests.entries := by
  obtain ⟨⟨_, files⟩, he, rfl⟩ := List.mem_map.mp h
  rwa [test_of_mem he]

lemma test_of_notMem {scan : Scan} {number : Int} (h : number ∉ scan.tests.keys) : scan.test number = {} := by
  rw [Table.mem_keys_iff, Option.not_isSome_iff_eq_none] at h
  rw [test, h, Option.getD_none]

lemma mem_keys_setTest {scan : Scan} {number other : Int} {files : TestFiles} :
    other ∈ (scan.setTest number files).tests.keys ↔ other = number ∨ other ∈ scan.tests.keys :=
  Table.mem_keys_insert

lemma lookup_concat {lines : List (Int × Int)} {number score other : Int}
    (h : number ∉ lines.map (·.1)) :
    (lines ++ [(number, score)]).lookup other =
      if number = other then some score else lines.lookup other := by
  rw [List.lookup_append, List.lookup_cons, List.lookup_nil]
  by_cases heq : number = other
  · subst heq
    have : lines.lookup number = none := by
      rw [List.lookup_eq_none_iff]
      rintro ⟨n, s⟩ hns
      have hne : number ≠ n := by
        rintro rfl
        exact h (List.mem_map_of_mem hns)
      simpa using hne
    simp [this]
  · have : (other == number) = false := by simpa using Ne.symm heq
    simp [this, heq]

theorem reads_empty : Reads {} [] where
  test _ := rfl
  known number := by simp [Table.keys]
  scored := rfl
  properties := rfl

variable {scan : Scan} {input output : Int → Option Nat} {numbers : List Int}
  {lines : List (Int × Int)} {settings : Option Properties}

theorem Holds.setScore (h : scan.Holds input output numbers lines settings) {number score : Int}
    (hn : number ∉ lines.map (·.1)) :
    (scan.setScore number score).Holds input output (numbers ++ [number])
      (lines ++ [(number, score)]) settings where
  test other := by
    have : (scan.setScore number score).test other =
        (scan.setTest number { scan.test number with score := score }).test other := rfl
    rw [this, test_setTest, lookup_concat hn]
    by_cases heq : number = other
    · subst heq
      simp [h.test]
    · simp [h.test, heq]
  known other := by
    have : other ∈ (scan.setScore number score).tests.keys ↔
        other = number ∨ other ∈ scan.tests.keys := mem_keys_setTest
    rw [this, h.known]
    simp [or_comm]
  scored := by simp [Scan.setScore, h.scored]
  properties := h.properties

/-- The well-formed score lines among lines of bytes. -/
def scoreLinesOf (text : List Bytes) : List (Int × Int) :=
  text.filterMap fun line => (Utf8.decode? line).bind scoreLine?

section ScoreLines

variable {fault : Option IoError} {line : Bytes} {text : List Bytes} {chars : List Char}
  {number score : Int}

lemma readScoreLines_badText (hd : Utf8.decode? line = none) :
    readScoreLines fault scan (line :: text) = (scan, some (.io .badText)) := by
  simp only [readScoreLines, hd]

lemma readScoreLines_skip (hd : Utf8.decode? line = some chars) (hs : scoreLine? chars = none) :
    readScoreLines fault scan (line :: text) = readScoreLines fault scan text := by
  simp only [readScoreLines, hd, hs]

lemma readScoreLines_twice (hd : Utf8.decode? line = some chars)
    (hs : scoreLine? chars = some (number, score)) (hn : number ∈ scan.scored) :
    readScoreLines fault scan (line :: text) = (scan, some .badScores) := by
  simp only [readScoreLines, hd, hs, List.contains_iff_mem.mpr hn, if_true]

lemma readScoreLines_score (hd : Utf8.decode? line = some chars)
    (hs : scoreLine? chars = some (number, score)) (hn : number ∉ scan.scored) :
    readScoreLines fault scan (line :: text) =
      readScoreLines fault (scan.setScore number score) text := by
  simp only [readScoreLines, hd, hs, List.contains_iff_mem, if_neg hn]

lemma scoreLinesOf_score (hd : Utf8.decode? line = some chars)
    (hs : scoreLine? chars = some (number, score)) :
    scoreLinesOf (line :: text) = (number, score) :: scoreLinesOf text := by
  simp [scoreLinesOf, hd, hs]

lemma scoreLinesOf_skip (hd : Utf8.decode? line = some chars) (hs : scoreLine? chars = none) :
    scoreLinesOf (line :: text) = scoreLinesOf text := by
  simp [scoreLinesOf, hd, hs]

end ScoreLines

/-- A score file is read to its end exactly when nothing in it is ill-formed and no test is scored
twice. -/
theorem readScoreLines_eq_none_iff (h : scan.Holds input output numbers lines settings)
    (hnodup : (lines.map (·.1)).Nodup) (fault : Option IoError) (text : List Bytes) :
    (readScoreLines fault scan text).2 = none ↔
      fault = none ∧ (∀ line ∈ text, (Utf8.decode? line).isSome) ∧
        ((lines ++ scoreLinesOf text).map (·.1)).Nodup := by
  induction text generalizing scan numbers lines with
  | nil => simpa [readScoreLines, scoreLinesOf] using fun _ => hnodup
  | cons line text ih =>
    cases hd : Utf8.decode? line with
    | none => simp [readScoreLines_badText hd, hd]
    | some chars =>
      cases hs : scoreLine? chars with
      | none =>
        rw [readScoreLines_skip hd hs, scoreLinesOf_skip hd hs, ih h hnodup]
        simp [hd]
      | some p =>
        obtain ⟨number, score⟩ := p
        rw [scoreLinesOf_score hd hs]
        by_cases hn : number ∈ lines.map (·.1)
        · have hdup : ¬ ((lines ++ (number, score) :: scoreLinesOf text).map (·.1)).Nodup := by
            rw [List.map_append, List.nodup_append]
            intro hall
            exact hall.2.2 number hn number (by simp) rfl
          rw [readScoreLines_twice hd hs (h.scored ▸ hn)]
          simp only [reduceCtorEq, false_iff]
          exact fun hall => hdup hall.2.2
        · have hnodup' : ((lines ++ [(number, score)]).map (·.1)).Nodup := by
            rw [List.map_append, List.map_singleton, List.nodup_append]
            refine ⟨hnodup, by simp, ?_⟩
            intro a ha b hb hab
            have hb : b = number := List.mem_singleton.mp hb
            subst hb hab
            exact hn ha
          rw [readScoreLines_score hd hs (h.scored ▸ hn), ih (h.setScore hn) hnodup',
            List.append_assoc, List.singleton_append]
          simp [hd]

/-- What is known after a score file was read to its end. -/
theorem holds_readScoreLines (h : scan.Holds input output numbers lines settings)
    {fault : Option IoError} {text : List Bytes} (hok : (readScoreLines fault scan text).2 = none) :
    (readScoreLines fault scan text).1.Holds input output
      (numbers ++ (scoreLinesOf text).map (·.1)) (lines ++ scoreLinesOf text) settings := by
  induction text generalizing scan numbers lines with
  | nil => simpa [readScoreLines, scoreLinesOf] using h
  | cons line text ih =>
    cases hd : Utf8.decode? line with
    | none => rw [readScoreLines_badText hd] at hok; contradiction
    | some chars =>
      cases hs : scoreLine? chars with
      | none =>
        rw [readScoreLines_skip hd hs] at hok ⊢
        rw [scoreLinesOf_skip hd hs]
        exact ih h hok
      | some p =>
        obtain ⟨number, score⟩ := p
        by_cases hn : number ∈ lines.map (·.1)
        · rw [readScoreLines_twice hd hs (h.scored ▸ hn)] at hok
          contradiction
        · rw [readScoreLines_score hd hs (h.scored ▸ hn)] at hok ⊢
          have := ih (h.setScore hn) hok
          simpa [scoreLinesOf_score hd hs] using this

lemma readEntry_of_opened {entries : List Entry} {index : Nat} {entry : Entry} {source : Source}
    (hi : entries[index]? = some entry) (ho : entry.opened = .ok source) :
    scan.readEntry entries index =
      match entry.kind with
      | .scores => scan.readScores source
      | .properties => scan.readProperties source
      | .input number => scan.addInput number index
      | .output number => scan.addOutput number index
      | .other => (scan, none) := by
  have hat : openAt entries index = .ok (entry, source) := by simp [openAt, hi, ho, Except.map]
  by_cases hd : entry.isDirectory = true
  · simp [readEntry, hat, Entry.kind, hd]
  · cases hk : EntryName.kind (EntryName.baseName entry.name) <;>
      simp [readEntry, hat, Entry.kind, hd, hk]

lemma readEntry_of_not_opened {entries : List Entry} {index : Nat} {entry : Entry}
    {cause : ZipError} (hi : entries[index]? = some entry) (ho : entry.opened = .error cause) :
    scan.readEntry entries index = (scan, some (.zip cause)) := by
  simp [readEntry, openAt, hi, ho, Except.map]

/-- The settings of an entry are read exactly when it is sound and they can be read. -/
theorem readProperties_eq_none_iff {entry : Entry} {source : Source}
    (ho : entry.opened = .ok source) :
    (scan.readProperties source).2 = none ↔ entry.damage = none ∧ entry.settings?.isSome := by
  cases hd : entry.damage with
  | none =>
    obtain rfl : source = ⟨entry.data, none⟩ := by simpa [Entry.opened, hd, eq_comm] using ho
    cases ht : Utf8.decode? entry.data with
    | none => simp [readProperties, Source.readText, Entry.settings?, ht, bind, Except.bind]
    | some text =>
      cases hp : Properties.ofText text <;>
        simp [readProperties, Source.readText, Entry.settings?, ht, hp, bind, Except.bind, pure,
          Except.pure, Except.toOption]
  | some damage =>
    cases damage with
    | opening cause => simp [Entry.opened, hd] at ho
    | reading fault =>
      obtain rfl : source = ⟨entry.data, some fault⟩ := by
        simpa [Entry.opened, hd, eq_comm] using ho
      simp [readProperties, Source.readText, bind, Except.bind]

lemma addInput_eq_none_iff {number : Int} {index : Nat} :
    (scan.addInput number index).2 = none ↔ (scan.test number).input = none := by
  cases h : (scan.test number).input <;> simp [addInput, h]

lemma addOutput_eq_none_iff {number : Int} {index : Nat} :
    (scan.addOutput number index).2 = none ↔ (scan.test number).output = none := by
  cases h : (scan.test number).output <;> simp [addOutput, h]

/-- A score file is read exactly when it is sound and all its lines are. -/
lemma readScores_eq_none_iff (h : scan.Holds input output numbers lines settings)
    (hnodup : (lines.map (·.1)).Nodup) {entry : Entry} {source : Source}
    (ho : entry.opened = .ok source) :
    (scan.readScores source).2 = none ↔ entry.damage = none ∧
      (∀ line ∈ Text.byteLines entry.data, (Utf8.decode? line).isSome) ∧
        ((lines ++ scoreLinesOf (Text.byteLines entry.data)).map (·.1)).Nodup := by
  rw [readScores, readScoreLines_eq_none_iff h hnodup]
  cases hd : entry.damage with
  | none =>
    obtain rfl : source = ⟨entry.data, none⟩ := by simpa [Entry.opened, hd, eq_comm] using ho
    simp [deliveredLines]
  | some damage =>
    cases damage with
    | opening cause => simp [Entry.opened, hd] at ho
    | reading fault =>
      obtain rfl : source = ⟨entry.data, some fault⟩ := by
        simpa [Entry.opened, hd, eq_comm] using ho
      simp

section Entries

variable {entries before : List Entry} {entry : Entry}

/-- An entry is read without an error exactly when it keeps the archive readable. -/
theorem readEntry_eq_none_iff (h : scan.Reads before) (hb : Readable before)
    (hi : entries[before.length]? = some entry) :
    (scan.readEntry entries before.length).2 = none ↔ Fits before entry := by
  cases ho : entry.opened with
  | error cause =>
    rw [readEntry_of_not_opened hi ho]
    simp only [reduceCtorEq, false_iff]
    intro hf
    obtain ⟨source, hs⟩ := hf.opened
    simp [ho] at hs
  | ok source =>
    rw [readEntry_of_opened hi ho]
    cases hk : entry.kind with
    | input number =>
      rw [fits_iff_of_input hb ho hk, ← Content.position_eq_none_iff]
      simp only [addInput_eq_none_iff, h.test]
    | output number =>
      rw [fits_iff_of_output hb ho hk, ← Content.position_eq_none_iff]
      simp only [addOutput_eq_none_iff, h.test]
    | scores =>
      rw [fits_iff_of_scores ho hk, Entry.scoreLines, if_pos hk]
      exact readScores_eq_none_iff h hb.scores ho
    | properties =>
      rw [fits_iff_of_properties hb ho hk]
      exact readProperties_eq_none_iff ho
    | other => simpa using fits_of_other hb ho hk

lemma position_concat_of_ne {kind : EntryKind} (h : entry.kind ≠ kind) :
    Content.position (before ++ [entry]) kind = Content.position before kind := by
  rw [Content.position_concat, if_neg h, Option.or_none]

/-- A data entry changes what is known of its own test only. -/
lemma reads_setTest {number : Int} {files : TestFiles} (h : scan.Reads before)
    (hk : entry.kind = .input number ∨ entry.kind = .output number)
    (hin : files.input = Content.position (before ++ [entry]) (.input number))
    (hout : files.output = Content.position (before ++ [entry]) (.output number))
    (hscore : files.score = (scan.test number).score) :
    (scan.setTest number files).Reads (before ++ [entry]) := by
  have hlines : Content.scoreLines (before ++ [entry]) = Content.scoreLines before := by
    rcases hk with hk | hk <;> simp [Content.scoreLines, Entry.scoreLines_of_ne, hk]
  constructor
  case test =>
    intro other
    rw [test_setTest, hlines]
    by_cases heq : number = other
    · subst heq
      rw [if_pos rfl, ← hin, ← hout]
      rw [h.test] at hscore
      cases files
      simp_all
    · have hne : entry.kind ≠ .input other ∧ entry.kind ≠ .output other := by
        rcases hk with hk | hk <;> simp [hk, heq]
      rw [if_neg heq, position_concat_of_ne hne.1, position_concat_of_ne hne.2, h.test]
  case known =>
    intro other
    rw [mem_keys_setTest, h.known]
    rcases hk with hk | hk <;> simp [Entry.numbers, hk, or_comm]
  case scored => rw [hlines]; exact h.scored
  case properties =>
    rw [Content.settings_concat, if_neg (by rcases hk with hk | hk <;> simp [hk])]
    exact h.properties

lemma reads_addInput {number : Int} (h : scan.Reads before) (hk : entry.kind = .input number)
    (hok : (scan.addInput number before.length).2 = none) :
    (scan.addInput number before.length).1.Reads (before ++ [entry]) := by
  have hnone := addInput_eq_none_iff.mp hok
  have hpos : Content.position before (.input number) = none := by simpa [h.test] using hnone
  simp only [addInput, hnone]
  apply reads_setTest h (.inl hk)
  · simp [Content.position_concat, hk, hpos]
  · simp [Content.position_concat, hk, h.test]
  · rfl

lemma reads_addOutput {number : Int} (h : scan.Reads before) (hk : entry.kind = .output number)
    (hok : (scan.addOutput number before.length).2 = none) :
    (scan.addOutput number before.length).1.Reads (before ++ [entry]) := by
  have hnone := addOutput_eq_none_iff.mp hok
  have hpos : Content.position before (.output number) = none := by simpa [h.test] using hnone
  simp only [addOutput, hnone]
  apply reads_setTest h (.inr hk)
  · simp [Content.position_concat, hk, h.test]
  · simp [Content.position_concat, hk, hpos]
  · rfl

/-- An entry that holds no data leaves the positions alone. -/
lemma reads_concat (hin : ∀ number, entry.kind ≠ .input number)
    (hout : ∀ number, entry.kind ≠ .output number)
    (h : scan.Holds (fun number => Content.position before (.input number))
      (fun number => Content.position before (.output number))
      (before.flatMap Entry.numbers ++ entry.numbers) (Content.scoreLines before ++ entry.scoreLines)
      (Content.settings (before ++ [entry]))) :
    scan.Reads (before ++ [entry]) where
  test other := by
    rw [position_concat_of_ne (hin other), position_concat_of_ne (hout other), h.test]
    simp [Content.scoreLines]
  known other := by
    rw [h.known]
    simp
  scored := by
    rw [h.scored]
    simp [Content.scoreLines]
  properties := h.properties

lemma reads_readScores {source : Source} (h : scan.Reads before) (hk : entry.kind = .scores)
    (ho : entry.opened = .ok source) (hsound : entry.damage = none)
    (hok : (scan.readScores source).2 = none) :
    (scan.readScores source).1.Reads (before ++ [entry]) := by
  obtain rfl : source = ⟨entry.data, none⟩ := by simpa [Entry.opened, hsound, eq_comm] using ho
  have hlines : scoreLinesOf (Text.byteLines entry.data) = entry.scoreLines := by
    rw [Entry.scoreLines, if_pos hk]
    rfl
  have hnumbers : entry.numbers = entry.scoreLines.map (·.1) := by simp [Entry.numbers, hk]
  have hread := holds_readScoreLines h hok
  simp only [deliveredLines, hlines] at hread
  apply reads_concat (by simp [hk]) (by simp [hk])
  rw [Content.settings_concat, if_neg (by simp [hk]), hnumbers]
  exact hread

lemma reads_readProperties {source : Source} (h : scan.Reads before)
    (hk : entry.kind = .properties) (ho : entry.opened = .ok source)
    (hok : (scan.readProperties source).2 = none) :
    (scan.readProperties source).1.Reads (before ++ [entry]) := by
  obtain ⟨hsound, hsome⟩ := (readProperties_eq_none_iff ho).mp hok
  obtain rfl : source = ⟨entry.data, none⟩ := by simpa [Entry.opened, hsound, eq_comm] using ho
  obtain ⟨properties, hp⟩ := Option.isSome_iff_exists.mp hsome
  obtain ⟨text, ht, hof⟩ := Option.bind_eq_some_iff.mp hp
  have hof : Properties.ofText text = .ok properties := by
    cases h : Properties.ofText text <;> simp [h, Except.toOption] at hof ⊢
    exact hof
  have hread : scan.readProperties ⟨entry.data, none⟩ =
      ({ scan with properties := some properties }, none) := by
    simp [readProperties, Source.readText, ht, hof, bind, Except.bind, pure, Except.pure]
  rw [hread]
  apply reads_concat (by simp [hk]) (by simp [hk])
  rw [Content.settings_concat, if_pos hk, hp, Entry.scoreLines_of_ne (by simp [hk]),
    show entry.numbers = [] by simp [Entry.numbers, hk], List.append_nil, List.append_nil]
  exact ⟨h.test, h.known, h.scored, rfl⟩

lemma reads_of_other (h : scan.Reads before) (hk : entry.kind = .other) :
    scan.Reads (before ++ [entry]) := by
  apply reads_concat (by simp [hk]) (by simp [hk])
  rw [Content.settings_concat, if_neg (by simp [hk]), Entry.scoreLines_of_ne (by simp [hk]),
    show entry.numbers = [] by simp [Entry.numbers, hk], List.append_nil, List.append_nil]
  exact h

/-- What is known after an entry was read without an error. -/
theorem reads_readEntry (h : scan.Reads before) (hb : Readable before)
    (hi : entries[before.length]? = some entry)
    (hok : (scan.readEntry entries before.length).2 = none) :
    (scan.readEntry entries before.length).1.Reads (before ++ [entry]) := by
  have hfits := (readEntry_eq_none_iff h hb hi).mp hok
  obtain ⟨source, ho⟩ := hfits.opened
  rw [readEntry_of_opened hi ho] at hok ⊢
  cases hk : entry.kind with
  | input number =>
    simp only [hk] at hok ⊢
    exact reads_addInput h hk hok
  | output number =>
    simp only [hk] at hok ⊢
    exact reads_addOutput h hk hok
  | scores =>
    simp only [hk] at hok ⊢
    exact reads_readScores h hk ho (hfits.scoreFile hk).1 hok
  | properties =>
    simp only [hk] at hok ⊢
    exact reads_readProperties h hk ho hok
  | other =>
    simp only
    exact reads_of_other h hk

/-- The rest of an archive is read to its end exactly when the whole of it is readable. -/
theorem readEntries_range' (h : scan.Reads before) (hb : Readable before) {rest : List Entry}
    (hentries : entries = before ++ rest) :
    ((readEntries entries scan (List.range' before.length rest.length)).2 = none ↔
      Readable entries) ∧
    ((readEntries entries scan (List.range' before.length rest.length)).2 = none →
      (readEntries entries scan (List.range' before.length rest.length)).1.Reads entries) := by
  induction rest generalizing scan before with
  | nil =>
    rw [List.append_nil] at hentries
    subst hentries
    simpa [readEntries] using ⟨hb, h⟩
  | cons entry rest ih =>
    have hi : entries[before.length]? = some entry := by simp [hentries]
    have hstep := readEntry_eq_none_iff h hb hi
    have hsplit : entries = (before ++ [entry]) ++ rest := by simp [hentries]
    rw [List.length_cons, List.range'_succ]
    cases hr : scan.readEntry entries before.length with
    | mk next error =>
      simp only [readEntries, hr]
      cases error with
      -- What the first entry breaks no later entry mends.
      | some error =>
        have hnot : ¬ Readable entries := by
          intro hall
          rw [hsplit] at hall
          have := hstep.mpr (readable_concat_iff.mp hall.of_append).2
          simp [hr] at this
        simpa using hnot
      | none =>
        have hok : (scan.readEntry entries before.length).2 = none := by rw [hr]
        have hnext := reads_readEntry h hb hi hok
        rw [hr] at hnext
        have := ih hnext (readable_concat_iff.mpr ⟨hb, hstep.mp hok⟩) hsplit
        simpa using this

end Entries

/-- A scan of a whole archive succeeds exactly when the archive is readable. -/
theorem readEntries_eq_none_iff (entries : List Entry) :
    (readEntries entries {} (List.range entries.length)).2 = none ↔ Readable entries := by
  rw [List.range_eq_range']
  exact (readEntries_range' reads_empty readable_nil (List.nil_append entries).symm).1

/-- What is known after a scan of a whole archive that succeeds. -/
theorem reads_readEntries {entries : List Entry}
    (hok : (readEntries entries {} (List.range entries.length)).2 = none) :
    (readEntries entries {} (List.range entries.length)).1.Reads entries := by
  rw [List.range_eq_range'] at hok ⊢
  exact (readEntries_range' reads_empty readable_nil (List.nil_append entries).symm).2 hok

end Scan
end Judge.Archive
