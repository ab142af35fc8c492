import Judge.Archive.Scan
import Judge.Proofs.Table

/-!
What an archive holds, said without the scan: the tests that its entries and score lines number,
the entries that hold their data, their scores, and the settings that win. `Readable` and
`Importable` say when a scan of it succeeds and when the archive is complete.
-/

namespace Judge.Archive

namespace Entry

/-- What an entry holds, as its name says. A directory holds nothing. -/
def kind (entry : Entry) : EntryKind :=
  if entry.isDirectory then .other else EntryName.kind (EntryName.baseName entry.name)

/-- The well-formed lines of a score file: a test and its score each. -/
def scoreLines (entry : Entry) : List (Int × Int) :=
  if entry.kind = .scores then
    (Text.byteLines entry.data).filterMap fun line => (Utf8.decode? line).bind Scan.scoreLine?
  else []

/-- The settings that an entry holds, if they can be read. -/
def settings? (entry : Entry) : Option Properties :=
  (Utf8.decode? entry.data).bind fun text => (Properties.ofText text).toOption

/-- The tests that an entry speaks of. -/
def numbers (entry : Entry) : List Int :=
  match entry.kind with
  | .input number | .output number => [number]
  | .scores => entry.scoreLines.map (·.1)
  | .properties | .other => []

end Entry

namespace Content

/-- The entries that hold something of one kind. -/
def holders (entries : List Entry) (kind : EntryKind) : List Entry :=
  entries.filter fun entry => entry.kind = kind

/-- The position of the first entry that holds something of one kind. -/
def position (entries : List Entry) (kind : EntryKind) : Option Nat :=
  entries.findIdx? fun entry => entry.kind = kind

/-- The well-formed score lines of an archive in their order. -/
def scoreLines (entries : List Entry) : List (Int × Int) := entries.flatMap Entry.scoreLines

/-- The tests of an archive in ascending order, each once. -/
def testNumbers (entries : List Entry) : List Int :=
  (Table.ofList ((entries.flatMap Entry.numbers).map fun number => (number, ()))).keys

/-- The settings of an archive: those of the last entry that holds any. -/
def settings (entries : List Entry) : Option Properties :=
  (holders entries .properties).getLast?.bind Entry.settings?

/-- The score that a line gives a test. -/
def explicitScore? (entries : List Entry) (number : Int) : Option Int :=
  (scoreLines entries).lookup number

/-- What the explicit scores leave of 100 points. -/
def remaining (entries : List Entry) : Int :=
  100 - (scoreLines entries).foldl (fun total line => total + line.2) 0

/-- The tests that no line gives a score, in ascending order. -/
def unscored (entries : List Entry) : List Int :=
  (testNumbers entries).filter fun number => (explicitScore? entries number).isNone

/-- The share of the test at a place when points are split between `count` tests: the quotient,
and one point more behind the first `count` less the remainder. -/
def share (points : Int) (count place : Nat) : Int :=
  Decimal.wrap32 (points.tdiv count + if (place : Int) < count - points.tmod count then 0 else 1)

/-- The score of a test: the one that a line gives, else its share of what is left. -/
def score (entries : List Entry) (number : Int) : Int :=
  match explicitScore? entries number with
  | some score => score
  | none =>
    let unscored := unscored entries
    share (remaining entries) unscored.length (unscored.idxOf number)

/-- The groups of an archive, if its settings have any. -/
def groups (entries : List Entry) : Option (Table Group) :=
  (settings entries).bind Properties.subtasks

/-- The record of a problem with the fields that the settings of an archive supply. -/
def record (entries : List Entry) (problem : Store.Problem) : Store.Problem :=
  match settings entries with
  | none => problem
  | some p =>
    { problem with
      timeLimit := p.timeLimit.getD problem.timeLimit
      memoryLimit := p.memoryLimit.getD problem.memoryLimit
      defaultPoints := p.defaultPoints.getD problem.defaultPoints
      authorCredits := p.author.getD problem.authorCredits
      sourceCredits := p.source.getD problem.sourceCredits
      consoleInput := p.consoleInput.getD problem.consoleInput
      testName := p.testName.getD problem.testName
      sourceSize := p.sourceSize.getD problem.sourceSize
      scoringStrategy := p.scoringStrategy.getD problem.scoringStrategy }

@[simp] theorem holders_append (a b : List Entry) (kind : EntryKind) :
    holders (a ++ b) kind = holders a kind ++ holders b kind := List.filter_append ..

theorem mem_holders {entries : List Entry} {kind : EntryKind} {entry : Entry} :
    entry ∈ holders entries kind ↔ entry ∈ entries ∧ entry.kind = kind := by simp [holders]

theorem holders_singleton (entry : Entry) (kind : EntryKind) :
    holders [entry] kind = if entry.kind = kind then [entry] else [] := by
  by_cases h : entry.kind = kind <;> simp [holders, h]

theorem position_eq_none_iff {entries : List Entry} {kind : EntryKind} :
    position entries kind = none ↔ holders entries kind = [] := by
  simp [position, holders, List.findIdx?_eq_none_iff, List.filter_eq_nil_iff]

/-- An entry added at the end takes a position only if there was none. -/
theorem position_concat (entries : List Entry) (entry : Entry) (kind : EntryKind) :
    position (entries ++ [entry]) kind =
      (position entries kind).or (if entry.kind = kind then some entries.length else none) := by
  by_cases h : entry.kind = kind <;> simp [position, List.findIdx?_append, h]

/-- A position leads to an entry of the kind. -/
theorem getElem?_position {entries : List Entry} {kind : EntryKind} {index : Nat}
    (h : position entries kind = some index) :
    ∃ entry, entries[index]? = some entry ∧ entry.kind = kind := by
  obtain ⟨hlt, hk, -⟩ := List.findIdx?_eq_some_iff_getElem.mp h
  exact ⟨entries[index], List.getElem?_eq_getElem hlt, by simpa using hk⟩

@[simp] theorem scoreLines_append (a b : List Entry) :
    scoreLines (a ++ b) = scoreLines a ++ scoreLines b := List.flatMap_append

theorem settings_concat (entries : List Entry) (entry : Entry) :
    settings (entries ++ [entry]) =
      if entry.kind = .properties then entry.settings? else settings entries := by
  by_cases h : entry.kind = .properties <;> simp [settings, holders_singleton, h]

theorem ascending_testNumbers (entries : List Entry) :
    (testNumbers entries).Pairwise (· < ·) := Table.ascending_keys _

theorem mem_testNumbers {entries : List Entry} {number : Int} :
    number ∈ testNumbers entries ↔ ∃ entry ∈ entries, number ∈ entry.numbers := by
  simp [testNumbers, Table.mem_keys_ofList]

end Content

/-- An archive that a scan reads to its end: every entry opens, no two entries hold the same part of
one test, no test has two score lines, and score files and settings can be read. -/
structure Readable (entries : List Entry) : Prop where
  opened : ∀ entry ∈ entries, ∃ source, entry.opened = .ok source
  inputs : ∀ number, (Content.holders entries (.input number)).length ≤ 1
  outputs : ∀ number, (Content.holders entries (.output number)).length ≤ 1
  scores : ((Content.scoreLines entries).map (·.1)).Nodup
  scoreFiles : ∀ entry ∈ entries, entry.kind = .scores → entry.damage = none ∧
    ∀ line ∈ Text.byteLines entry.data, (Utf8.decode? line).isSome
  settings : ∀ entry ∈ entries, entry.kind = .properties → entry.damage = none ∧
    entry.settings?.isSome

/-- An archive that can be imported: every test has its input and its output, and the groups list
only tests of the archive. -/
structure Importable (entries : List Entry) : Prop extends Readable entries where
  complete : ∀ number ∈ Content.testNumbers entries,
    Content.holders entries (.input number) ≠ [] ∧ Content.holders entries (.output number) ≠ []
  groups : ∀ properties, Content.settings entries = some properties →
    ∀ number ∈ properties.subtaskedTests, number ∈ Content.testNumbers entries

/-- An archive whose entries can all be read to their end. -/
def Sound (entries : List Entry) : Prop := ∀ entry ∈ entries, entry.damage = none

/-- What is readable as a whole was readable before its last entry came. -/
theorem Readable.of_append {a b : List Entry} (h : Readable (a ++ b)) : Readable a where
  opened entry he := h.opened entry (List.mem_append_left _ he)
  inputs number := by
    have := h.inputs number
    rw [Content.holders_append, List.length_append] at this
    omega
  outputs number := by
    have := h.outputs number
    rw [Content.holders_append, List.length_append] at this
    omega
  scores := by
    have := h.scores
    rw [Content.scoreLines_append, List.map_append] at this
    exact (List.nodup_append.mp this).1
  scoreFiles entry he := h.scoreFiles entry (List.mem_append_left _ he)
  settings entry he := h.settings entry (List.mem_append_left _ he)

/-- An entry that keeps an archive readable when it is added at the end. -/
structure Fits (entries : List Entry) (entry : Entry) : Prop where
  opened : ∃ source, entry.opened = .ok source
  input : ∀ number, entry.kind = .input number → Content.holders entries (.input number) = []
  output : ∀ number, entry.kind = .output number → Content.holders entries (.output number) = []
  scores : ((Content.scoreLines entries ++ entry.scoreLines).map (·.1)).Nodup
  scoreFile : entry.kind = .scores → entry.damage = none ∧
    ∀ line ∈ Text.byteLines entry.data, (Utf8.decode? line).isSome
  settings : entry.kind = .properties → entry.damage = none ∧ entry.settings?.isSome

lemma length_holders_concat_le_iff {entries : List Entry} {entry : Entry} {kind : EntryKind} :
    (Content.holders (entries ++ [entry]) kind).length ≤ 1 ↔
      (Content.holders entries kind).length ≤ 1 ∧
        (entry.kind = kind → Content.holders entries kind = []) := by
  rw [Content.holders_append, Content.holders_singleton, List.length_append]
  by_cases h : entry.kind = kind
  · simp only [h, if_true, List.length_singleton, forall_const, ← List.length_eq_zero_iff]
    omega
  · simp [h]

theorem readable_concat_iff {entries : List Entry} {entry : Entry} :
    Readable (entries ++ [entry]) ↔ Readable entries ∧ Fits entries entry := by
  have hmem : entry ∈ entries ++ [entry] := by simp
  constructor
  · intro h
    refine ⟨h.of_append, ⟨h.opened _ hmem, ?_, ?_, ?_, h.scoreFiles _ hmem, h.settings _ hmem⟩⟩
    · exact fun number => (length_holders_concat_le_iff.mp (h.inputs number)).2
    · exact fun number => (length_holders_concat_le_iff.mp (h.outputs number)).2
    · simpa [Content.scoreLines] using h.scores
  · rintro ⟨h, hf⟩
    constructor
    case opened =>
      intro d hd
      rcases List.mem_append.mp hd with hd | hd
      · exact h.opened d hd
      · exact List.mem_singleton.mp hd ▸ hf.opened
    case inputs =>
      exact fun number => length_holders_concat_le_iff.mpr ⟨h.inputs number, hf.input number⟩
    case outputs =>
      exact fun number => length_holders_concat_le_iff.mpr ⟨h.outputs number, hf.output number⟩
    case scores => simpa [Content.scoreLines] using hf.scores
    case scoreFiles =>
      intro d hd hk
      rcases List.mem_append.mp hd with hd | hd
      · exact h.scoreFiles d hd hk
      · obtain rfl := List.mem_singleton.mp hd
        exact hf.scoreFile hk
    case settings =>
      intro d hd hk
      rcases List.mem_append.mp hd with hd | hd
      · exact h.settings d hd hk
      · obtain rfl := List.mem_singleton.mp hd
        exact hf.settings hk

lemma Entry.scoreLines_of_ne {entry : Entry} (h : entry.kind ≠ .scores) :
    entry.scoreLines = [] := if_neg h

section Kinds

variable {entries : List Entry} {entry : Entry} {source : Source} {number : Int}

lemma fits_iff_of_input (h : Readable entries) (ho : entry.opened = .ok source)
    (hk : entry.kind = .input number) :
    Fits entries entry ↔ Content.holders entries (.input number) = [] := by
  refine ⟨fun hf => hf.input number hk, fun hn => ⟨⟨source, ho⟩, ?_, ?_, ?_, ?_, ?_⟩⟩
  · intro other hother
    obtain rfl : number = other := by simpa [hk] using hother
    exact hn
  · simp [hk]
  · simpa [Entry.scoreLines_of_ne, hk] using h.scores
  · simp [hk]
  · simp [hk]

lemma fits_iff_of_output (h : Readable entries) (ho : entry.opened = .ok source)
    (hk : entry.kind = .output number) :
    Fits entries entry ↔ Content.holders entries (.output number) = [] := by
  refine ⟨fun hf => hf.output number hk, fun hn => ⟨⟨source, ho⟩, ?_, ?_, ?_, ?_, ?_⟩⟩
  · simp [hk]
  · intro other hother
    obtain rfl : number = other := by simpa [hk] using hother
    exact hn
  · simpa [Entry.scoreLines_of_ne, hk] using h.scores
  · simp [hk]
  · simp [hk]

lemma fits_iff_of_scores (ho : entry.opened = .ok source) (hk : entry.kind = .scores) :
    Fits entries entry ↔ entry.damage = none ∧
      (∀ line ∈ Text.byteLines entry.data, (Utf8.decode? line).isSome) ∧
        ((Content.scoreLines entries ++ entry.scoreLines).map (·.1)).Nodup := by
  constructor
  · exact fun hf => ⟨(hf.scoreFile hk).1, (hf.scoreFile hk).2, hf.scores⟩
  · rintro ⟨hd, hl, hn⟩
    exact ⟨⟨source, ho⟩, by simp [hk], by simp [hk], hn, fun _ => ⟨hd, hl⟩, by simp [hk]⟩

lemma fits_iff_of_properties (h : Readable entries) (ho : entry.opened = .ok source)
    (hk : entry.kind = .properties) :
    Fits entries entry ↔ entry.damage = none ∧ entry.settings?.isSome := by
  refine ⟨fun hf => hf.settings hk, fun hs => ⟨⟨source, ho⟩, ?_, ?_, ?_, ?_, fun _ => hs⟩⟩
  · simp [hk]
  · simp [hk]
  · simpa [Entry.scoreLines_of_ne, hk] using h.scores
  · simp [hk]

lemma fits_of_other (h : Readable entries) (ho : entry.opened = .ok source)
    (hk : entry.kind = .other) : Fits entries entry := by
  refine ⟨⟨source, ho⟩, ?_, ?_, ?_, ?_, ?_⟩
  · simp [hk]
  · simp [hk]
  · simpa [Entry.scoreLines_of_ne, hk] using h.scores
  · simp [hk]
  · simp [hk]

end Kinds

theorem readable_nil : Readable [] where
  opened _ h := absurd h (by simp)
  inputs _ := by simp [Content.holders]
  outputs _ := by simp [Content.holders]
  scores := by simp [Content.scoreLines]
  scoreFiles _ h := absurd h (by simp)
  settings _ h := absurd h (by simp)

end Judge.Archive
