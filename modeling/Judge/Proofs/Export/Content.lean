import Judge.Proofs.Archive.Reread
import Judge.Proofs.Export.Run

/-!
What an exported archive holds when it is read: one input and one output for each test, a score
line for each test, and the settings.
-/

namespace Judge.Archive.Export

open Store (Memory)

/-- Tests in the order of their numbers, which can stand in front of names. -/
structure Numbered (tests : List Store.Test) : Prop where
  ascending : tests.Pairwise fun x y => x.visibleId < y.visibleId
  nonneg : ∀ test ∈ tests, 0 ≤ test.visibleId
  small : ∀ test ∈ tests, Decimal.int32.contains test.visibleId = true
  scores : ∀ test ∈ tests, Decimal.int32.contains test.score = true

lemma Numbered.of_cons {test : Store.Test} {tests : List Store.Test} (h : Numbered (test :: tests)) :
    Numbered tests where
  ascending := h.ascending.of_cons
  nonneg t ht := h.nonneg t (List.mem_cons_of_mem _ ht)
  small t ht := h.small t (List.mem_cons_of_mem _ ht)
  scores t ht := h.scores t (List.mem_cons_of_mem _ ht)

/-- Of tests with different numbers only one has a number. -/
lemma filter_eq_singleton {tests : List Store.Test}
    (h : tests.Pairwise fun x y => x.visibleId < y.visibleId) {test : Store.Test}
    (htest : test ∈ tests) : tests.filter (fun t => t.visibleId = test.visibleId) = [test] := by
  induction tests with
  | nil => simp at htest
  | cons head tests ih =>
    obtain ⟨hlt, hrest⟩ := List.pairwise_cons.mp h
    rcases List.mem_cons.mp htest with rfl | htest
    · have hnone : tests.filter (fun t => t.visibleId = test.visibleId) = [] := by
        rw [List.filter_eq_nil_iff]
        intro t ht
        have := hlt t ht
        simp only [decide_eq_true_eq]
        omega
      rw [List.filter_cons_of_pos (by simp), hnone]
    · have hne := hlt test htest
      rw [List.filter_cons_of_neg (by simp only [decide_eq_true_eq]; omega), ih hrest htest]

section Kinds

variable {s : Memory} {name : String} {tests : List Store.Test} {settings : Option Properties}

lemma kind_inputEntry (h : Numbered tests) (hname : '/' ∉ name.toList) {test : Store.Test}
    (htest : test ∈ tests) : (inputEntry s name test).kind = .input test.visibleId :=
  kind_input (h.nonneg test htest) (h.small test htest) hname _

lemma kind_outputEntry (h : Numbered tests) (hname : '/' ∉ name.toList) {test : Store.Test}
    (htest : test ∈ tests) : (outputEntry s name test).kind = .output test.visibleId :=
  kind_output (h.nonneg test htest) (h.small test htest) hname _

lemma kind_scoreEntry (tests : List Store.Test) : (scoreEntry tests).kind = .scores :=
  kind_scores _

lemma kind_settingsEntry (properties : Properties) : (settingsEntry properties).kind = .properties :=
  kind_properties _

/-- What holds of the data of each test, of the score file and of the settings holds of all. -/
lemma forall_mem_archiveOf {P : Entry → Prop}
    (hdata : ∀ test ∈ tests, P (inputEntry s name test) ∧ P (outputEntry s name test))
    (hscores : P (scoreEntry tests))
    (hsettings : ∀ properties, settings = some properties → P (settingsEntry properties)) :
    ∀ entry ∈ archiveOf s name tests settings, P entry := by
  intro entry he
  rcases List.mem_append.mp he with he | he
  · exact forall_mem_dataEntries hdata entry he
  rcases List.mem_cons.mp he with rfl | he
  · exact hscores
  · obtain ⟨properties, hsome, rfl⟩ := Option.map_eq_some_iff.mp (Option.mem_toList.mp he)
    exact hsettings properties hsome

lemma holders_rest (tests : List Store.Test) (settings : Option Properties) {kind : EntryKind}
    (hscores : kind ≠ .scores) (hproperties : kind ≠ .properties) :
    Content.holders (scoreEntry tests :: (settings.map settingsEntry).toList) kind = [] := by
  rw [Content.holders, List.filter_eq_nil_iff]
  intro entry he
  rw [decide_eq_true_eq]
  rcases List.mem_cons.mp he with rfl | he
  · rw [scoreEntry, kind_scores]
    exact hscores.symm
  · obtain ⟨properties, -, rfl⟩ := Option.map_eq_some_iff.mp (Option.mem_toList.mp he)
    rw [kind_settingsEntry]
    exact hproperties.symm

/-- Data of one kind is picked from the tests with a number. -/
lemma holders_archiveOf {kind : EntryKind} (hscores : kind ≠ .scores)
    (hproperties : kind ≠ .properties) {number : Int} {pick : Store.Test → Entry}
    (hpick : ∀ test ∈ tests, Content.holders [inputEntry s name test, outputEntry s name test] kind =
      if test.visibleId = number then [pick test] else []) :
    Content.holders (archiveOf s name tests settings) kind =
      (tests.filter fun test => test.visibleId = number).map pick := by
  rw [archiveOf, Content.holders_append, holders_rest tests settings hscores hproperties,
    List.append_nil]
  induction tests with
  | nil => rfl
  | cons test tests ih =>
    have hcons : dataEntries s name (test :: tests) =
        [inputEntry s name test, outputEntry s name test] ++ dataEntries s name tests := rfl
    rw [hcons, Content.holders_append, ih fun t ht => hpick t (List.mem_cons_of_mem _ ht),
      hpick test (by simp)]
    by_cases heq : test.visibleId = number <;> simp [heq]

/-- The inputs of an exported archive are those of its tests. -/
theorem holders_input (h : Numbered tests) (hname : '/' ∉ name.toList) (number : Int) :
    Content.holders (archiveOf s name tests settings) (.input number) =
      (tests.filter fun test => test.visibleId = number).map (inputEntry s name) := by
  refine holders_archiveOf (by simp) (by simp) fun test htest => ?_
  have hin := @kind_inputEntry s name tests h hname test htest
  have hout := @kind_outputEntry s name tests h hname test htest
  by_cases heq : test.visibleId = number <;> simp [Content.holders, hin, hout, heq]

theorem holders_output (h : Numbered tests) (hname : '/' ∉ name.toList) (number : Int) :
    Content.holders (archiveOf s name tests settings) (.output number) =
      (tests.filter fun test => test.visibleId = number).map (outputEntry s name) := by
  refine holders_archiveOf (by simp) (by simp) fun test htest => ?_
  have hin := @kind_inputEntry s name tests h hname test htest
  have hout := @kind_outputEntry s name tests h hname test htest
  by_cases heq : test.visibleId = number <;> simp [Content.holders, hin, hout, heq]

lemma scoreLine?_line {test : Store.Test} (hsmall : Decimal.int32.contains test.visibleId = true)
    (hscore : Decimal.int32.contains test.score = true) :
    Scan.scoreLine? (Decimal.writeInt test.visibleId ++ ' ' :: Decimal.writeInt test.score) =
      some (test.visibleId, test.score) := by
  have hwords : Text.words (Decimal.writeInt test.visibleId ++ ' ' :: Decimal.writeInt test.score) =
      [Decimal.writeInt test.visibleId, Decimal.writeInt test.score] :=
    Text.words_pair (fun _ => Decimal.not_isBlank_of_mem_writeInt)
      (fun _ => Decimal.not_isBlank_of_mem_writeInt) (Decimal.writeInt_ne_nil _)
      (Decimal.writeInt_ne_nil _)
  rw [Scan.scoreLine?, hwords]
  simp [Decimal.readInteger?_writeInt hsmall, Decimal.readInteger?_writeInt hscore]

lemma notMem_line {a b : Int} {c : Char} (hc : c = '\n' ∨ c = '\r') :
    c ∉ Decimal.writeInt a ++ ' ' :: Decimal.writeInt b := by
  have hblank : Text.isBlank c = true := by
    rcases hc with rfl | rfl <;> decide
  simp only [List.mem_append, List.mem_cons, not_or]
  refine ⟨fun h => ?_, ?_, fun h => ?_⟩
  · simp [Decimal.not_isBlank_of_mem_writeInt h] at hblank
  · rcases hc with rfl | rfl <;> decide
  · simp [Decimal.not_isBlank_of_mem_writeInt h] at hblank

lemma byteLines_scoreEntry (tests : List Store.Test) :
    Text.byteLines (scoreEntry tests).data = tests.map fun test =>
      Utf8.encode (Decimal.writeInt test.visibleId ++ ' ' :: Decimal.writeInt test.score) := by
  let line (test : Store.Test) : List Char :=
    Decimal.writeInt test.visibleId ++ ' ' :: Decimal.writeInt test.score
  have hfile : scoreFile tests = (tests.map line).flatMap fun line => line ++ ['\n'] := by
    rw [scoreFile, List.flatMap_map]
  have hlf : ∀ piece ∈ tests.map line, '\n' ∉ piece := by
    rw [List.forall_mem_map]
    exact fun test _ => notMem_line (.inl rfl)
  have hcr : ∀ piece ∈ tests.map line, '\r' ∉ piece.getLast? := by
    rw [List.forall_mem_map]
    exact fun test _ h => notMem_line (.inr rfl) (List.mem_of_mem_getLast? h)
  rw [scoreEntry, hfile, Text.byteLines_encode, Text.lines_flatMap hlf hcr, List.map_map]
  rfl

/-- The score file gives each test its score. -/
theorem scoreLines_scoreEntry (h : Numbered tests) :
    (scoreEntry tests).scoreLines = tests.map fun test => (test.visibleId, test.score) := by
  rw [Entry.scoreLines, if_pos (kind_scoreEntry _), byteLines_scoreEntry, List.filterMap_map]
  conv_rhs => rw [← List.filterMap_eq_map]
  apply List.filterMap_congr
  intro test htest
  simp only [Function.comp_apply]
  rw [Utf8.decode?_encode, Option.bind_some,
    scoreLine?_line (h.small test htest) (h.scores test htest)]

/-- The only score lines of an exported archive are those of its score file. -/
theorem scoreLines_archiveOf (h : Numbered tests) (hname : '/' ∉ name.toList) :
    Content.scoreLines (archiveOf s name tests settings) =
      tests.map fun test => (test.visibleId, test.score) := by
  have hdata : (dataEntries s name tests).flatMap Entry.scoreLines = [] := by
    rw [List.flatMap_eq_nil_iff]
    apply forall_mem_dataEntries
    intro test htest
    exact ⟨Entry.scoreLines_of_ne (by simp [kind_inputEntry h hname htest]),
      Entry.scoreLines_of_ne (by simp [kind_outputEntry h hname htest])⟩
  have hrest : (settings.map settingsEntry).toList.flatMap Entry.scoreLines = [] := by
    rw [List.flatMap_eq_nil_iff]
    intro entry he
    obtain ⟨properties, -, rfl⟩ := Option.map_eq_some_iff.mp (Option.mem_toList.mp he)
    exact Entry.scoreLines_of_ne (by simp [kind_settingsEntry])
  rw [Content.scoreLines, archiveOf, List.flatMap_append, List.flatMap_cons, hdata, hrest,
    scoreLines_scoreEntry h, List.nil_append, List.append_nil]

/-- The tests of an exported archive are the tests that were exported. -/
theorem testNumbers_archiveOf (h : Numbered tests) (hname : '/' ∉ name.toList) :
    Content.testNumbers (archiveOf s name tests settings) = tests.map (·.visibleId) := by
  have hknown : ∀ number, ∀ entry ∈ archiveOf s name tests settings, number ∈ entry.numbers →
      ∃ test ∈ tests, test.visibleId = number := by
    intro number
    apply forall_mem_archiveOf
    · intro test htest
      have hin := @kind_inputEntry s name tests h hname test htest
      have hout := @kind_outputEntry s name tests h hname test htest
      simp only [Entry.numbers, hin, hout, List.mem_singleton, and_self]
      rintro rfl
      exact ⟨test, htest, rfl⟩
    · simp only [Entry.numbers, kind_scoreEntry, scoreLines_scoreEntry h, List.map_map]
      intro hnumber
      obtain ⟨test, htest, rfl⟩ := List.mem_map.mp hnumber
      exact ⟨test, htest, rfl⟩
    · intro properties _ hnumber
      simp [Entry.numbers, kind_settingsEntry] at hnumber
  apply Table.eq_of_mem_iff_of_ascending id
  · exact Content.ascending_testNumbers _
  · exact List.pairwise_map.mpr h.ascending
  intro number
  rw [Content.mem_testNumbers, List.mem_map]
  constructor
  · rintro ⟨entry, he, hnumber⟩
    exact hknown number entry he hnumber
  · rintro ⟨test, htest, rfl⟩
    refine ⟨inputEntry s name test, ?_, ?_⟩
    · exact List.mem_append_left _ (List.mem_flatMap.mpr ⟨test, htest, by simp⟩)
    · simp [Entry.numbers, kind_inputEntry h hname htest]

/-- The score of an exported test is the one that its line gives; none is inferred. -/
theorem score_archiveOf (h : Numbered tests) (hname : '/' ∉ name.toList) {test : Store.Test}
    (htest : test ∈ tests) :
    Content.score (archiveOf s name tests settings) test.visibleId = test.score := by
  have hlookup : ∀ {tests : List Store.Test},
      (tests.Pairwise fun x y => x.visibleId < y.visibleId) → test ∈ tests →
      (tests.map fun test => (test.visibleId, test.score)).lookup test.visibleId =
        some test.score := by
    intro tests hascending htest
    induction tests with
    | nil => simp at htest
    | cons head tests ih =>
      obtain ⟨hlt, hrest⟩ := List.pairwise_cons.mp hascending
      rcases List.mem_cons.mp htest with rfl | htest
      · simp
      · have hne : (test.visibleId == head.visibleId) = false := by
          have := hlt test htest
          rw [beq_eq_false_iff_ne]
          omega
        rw [List.map_cons, List.lookup_cons, hne]
        exact ih hrest htest
  rw [Content.score, Content.explicitScore?, scoreLines_archiveOf h hname,
    hlookup h.ascending htest]

/-- The settings of an exported archive are those of its file, if they can be read. -/
theorem settings_archiveOf (h : Numbered tests) (hname : '/' ∉ name.toList) :
    Content.settings (archiveOf s name tests settings) =
      settings.bind fun properties => (settingsEntry properties).settings? := by
  have hdata : Content.holders (dataEntries s name tests) .properties = [] := by
    rw [Content.holders, List.filter_eq_nil_iff]
    apply forall_mem_dataEntries
    intro test htest
    rw [kind_inputEntry h hname htest, kind_outputEntry h hname htest]
    simp
  have hrest : Content.holders (scoreEntry tests :: (settings.map settingsEntry).toList) .properties =
      (settings.map settingsEntry).toList := by
    rw [Content.holders, List.filter_cons_of_neg (by simp [kind_scoreEntry]), List.filter_eq_self]
    intro entry he
    obtain ⟨properties, -, rfl⟩ := Option.map_eq_some_iff.mp (Option.mem_toList.mp he)
    simp [kind_settingsEntry]
  rw [Content.settings, archiveOf, Content.holders_append, hdata, hrest, List.nil_append]
  cases settings <;> rfl

/-- No two tests have one number. -/
lemma length_filter_visibleId_le (h : Numbered tests) (number : Int) :
    (tests.filter fun test => test.visibleId = number).length ≤ 1 := by
  by_cases hnumber : ∃ test ∈ tests, test.visibleId = number
  · obtain ⟨test, htest, rfl⟩ := hnumber
    rw [filter_eq_singleton h.ascending htest]
    exact Nat.le_refl 1
  · rw [List.filter_eq_nil_iff.mpr fun test htest => by
      simpa using fun hsame => hnumber ⟨test, htest, hsame⟩]
    exact Nat.zero_le 1

/-- An exported archive can be read if its settings can. -/
theorem readable_archiveOf (h : Numbered tests) (hname : '/' ∉ name.toList)
    (hread : ∀ properties, settings = some properties →
      (settingsEntry properties).settings?.isSome) :
    Readable (archiveOf s name tests settings) := by
  -- Only the score file and the settings are read as text.
  have hdata : ∀ kind, (kind = .scores ∨ kind = .properties) → ∀ test ∈ tests,
      (inputEntry s name test).kind ≠ kind ∧ (outputEntry s name test).kind ≠ kind := by
    intro kind hkind test htest
    rw [kind_inputEntry h hname htest, kind_outputEntry h hname htest]
    rcases hkind with rfl | rfl <;> simp
  constructor
  case opened =>
    apply forall_mem_archiveOf
    · exact fun test _ => ⟨⟨_, rfl⟩, ⟨_, rfl⟩⟩
    · exact ⟨_, rfl⟩
    · exact fun properties _ => ⟨_, rfl⟩
  case inputs =>
    intro number
    rw [holders_input h hname, List.length_map]
    exact length_filter_visibleId_le h number
  case outputs =>
    intro number
    rw [holders_output h hname, List.length_map]
    exact length_filter_visibleId_le h number
  case scores =>
    rw [scoreLines_archiveOf h hname, List.map_map]
    exact (List.pairwise_map.mpr h.ascending).imp fun hlt => Int.ne_of_lt hlt
  case scoreFiles =>
    apply forall_mem_archiveOf
    · intro test htest
      obtain ⟨hinput, houtput⟩ := hdata .scores (.inl rfl) test htest
      exact ⟨fun hkind => absurd hkind hinput, fun hkind => absurd hkind houtput⟩
    · refine fun _ => ⟨rfl, ?_⟩
      rw [byteLines_scoreEntry, List.forall_mem_map]
      intro test _
      rw [Utf8.decode?_encode, Option.isSome_some]
    · intro properties _
      simp [kind_settingsEntry]
  case settings =>
    apply forall_mem_archiveOf
    · intro test htest
      obtain ⟨hinput, houtput⟩ := hdata .properties (.inr rfl) test htest
      exact ⟨fun hkind => absurd hkind hinput, fun hkind => absurd hkind houtput⟩
    · simp [kind_scoreEntry]
    · exact fun properties hproperties _ => ⟨rfl, hread properties hproperties⟩

/-- An exported archive can be imported if its settings can be read and list its tests only. -/
theorem importable_archiveOf (h : Numbered tests) (hname : '/' ∉ name.toList)
    (hread : ∀ properties, settings = some properties →
      ∃ read, (settingsEntry properties).settings? = some read ∧
        ∀ number ∈ read.subtaskedTests, ∃ test ∈ tests, test.visibleId = number) :
    Importable (archiveOf s name tests settings) := by
  constructor
  case toReadable =>
    apply readable_archiveOf h hname
    intro properties hproperties
    obtain ⟨read, hsome, -⟩ := hread properties hproperties
    exact Option.isSome_iff_exists.mpr ⟨read, hsome⟩
  case complete =>
    intro number hnumber
    rw [testNumbers_archiveOf h hname] at hnumber
    obtain ⟨test, htest, rfl⟩ := List.mem_map.mp hnumber
    rw [holders_input h hname, holders_output h hname, filter_eq_singleton h.ascending htest]
    simp
  case groups =>
    intro properties hsettings number hnumber
    rw [settings_archiveOf h hname] at hsettings
    obtain ⟨written, hwritten, hproperties⟩ := Option.bind_eq_some_iff.mp hsettings
    obtain ⟨read, hsome, hknown⟩ := hread written hwritten
    obtain rfl : read = properties := Option.some.inj (hsome.symm.trans hproperties)
    obtain ⟨test, htest, rfl⟩ := hknown number hnumber
    rw [testNumbers_archiveOf h hname]
    exact List.mem_map_of_mem htest

lemma sound_archiveOf (s : Memory) (name : String) (tests : List Store.Test)
    (settings : Option Properties) :
    Sound (archiveOf s name tests settings) :=
  forall_mem_archiveOf (fun _ _ => ⟨rfl, rfl⟩) rfl fun _ _ => rfl

end Kinds

end Judge.Archive.Export
