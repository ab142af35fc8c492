import Judge.Proofs.Archive.Readings

/-!
Preparing an archive: it succeeds exactly for archives that can be imported, and what it prepares
is the list of tests, with the positions of their data and their final scores.
-/

namespace Judge.Archive

/-- What an import needs to know of a test. -/
def Content.files (entries : List Entry) (number : Int) : TestFiles :=
  ⟨position entries (.input number), position entries (.output number), score entries number⟩

/-- The tests of an archive in ascending order. -/
def Content.tests (entries : List Entry) : List (Int × TestFiles) :=
  (testNumbers entries).map fun number => (number, files entries number)

theorem Properties.subtaskedTests_of_none {properties : Properties}
    (h : properties.subtasks = none) : properties.subtaskedTests = [] := by
  simp [subtaskedTests, h]

theorem Properties.mem_subtaskedTests {properties : Properties} {number : Int} :
    number ∈ properties.subtaskedTests ↔
      ∃ groups, properties.subtasks = some groups ∧ ∃ g ∈ groups.entries, number ∈ g.2.tests := by
  cases hs : properties.subtasks with
  | none => simp [subtaskedTests, hs]
  | some groups =>
    simp only [subtaskedTests, hs, Table.mem_keys_ofList, Table.values, List.map_map,
      List.mem_map, List.mem_flatMap, Option.some.injEq]
    constructor
    · rintro ⟨_, ⟨_, ⟨g, hg, rfl⟩, hnumber⟩, rfl⟩
      exact ⟨groups, rfl, g, hg, hnumber⟩
    · rintro ⟨_, rfl, g, hg, hnumber⟩
      exact ⟨number, ⟨g.2, ⟨g, hg, rfl⟩, hnumber⟩, rfl⟩

namespace Scan

/-- Nothing is checked of the groups unless there are any, and they list no tests then. -/
theorem validate_eq_ok_iff {scan : Scan} :
    scan.validate = .ok () ↔
      (∀ properties, scan.properties = some properties →
        ∀ test ∈ properties.subtaskedTests, test ∈ scan.tests.keys) ∧
      ∀ e ∈ scan.tests.entries, e.2.input.isSome ∧ e.2.output.isSome := by
  have hfind : (∀ e ∈ scan.tests.entries, e.2.input.isSome ∧ e.2.output.isSome) ↔
      (scan.tests.entries.find? fun e => e.2.input.isNone || e.2.output.isNone) = none := by
    simp [List.find?_eq_none, ← Option.isSome_iff_ne_none]
  rw [hfind]
  cases hp : scan.properties with
  | none =>
    cases hf : scan.tests.entries.find? fun e => e.2.input.isNone || e.2.output.isNone <;>
      simp [validate, hp, hf, throw, throwThe, MonadExceptOf.throw, pure, Except.pure]
  | some properties =>
    have hany : (∀ test ∈ properties.subtaskedTests, test ∈ scan.tests.keys) ↔
        (properties.subtaskedTests.any fun test => !scan.tests.contains test) = false := by
      simp [← Table.contains_iff]
    simp only [Option.some.injEq, forall_eq', hany]
    cases hs : properties.subtasks with
    | none =>
      have hnil := Properties.subtaskedTests_of_none hs
      cases hf : scan.tests.entries.find? fun e => e.2.input.isNone || e.2.output.isNone <;>
        simp [validate, hp, hf, hs, hnil, throw, throwThe, MonadExceptOf.throw, pure, Except.pure]
    | some groups =>
      cases ha : properties.subtaskedTests.any fun test => !scan.tests.contains test
      case true =>
        simp [validate, hp, hs, ha, throw, throwThe, MonadExceptOf.throw, bind, Except.bind]
      case false =>
        cases hf : scan.tests.entries.find? fun e => e.2.input.isNone || e.2.output.isNone <;>
          simp [validate, hp, hf, hs, ha, throw, throwThe, MonadExceptOf.throw, pure, Except.pure]

/-- The keys of entries that have no explicit score. -/
def unscoredKeys (scored : List Int) (entries : List (Int × TestFiles)) : List Int :=
  (entries.map (·.1)).filter fun number => !scored.contains number

/-- The score of an unscored test at a place. -/
def shareAt (share cutoff place : Int) : Int :=
  Decimal.wrap32 (if place < cutoff then share - 1 else share)

/-- Every unscored test gets the share of its place among the unscored tests. Distinct keys make the
running place of the loop the place in the list. -/
theorem assignShares_eq_map {scored : List Int} {share cutoff place : Int}
    {entries : List (Int × TestFiles)} (hasc : Ascending entries)
    (hzero : ∀ e ∈ entries, e.1 ∉ scored → e.2.score = 0) :
    assignShares scored share cutoff place entries = entries.map fun e =>
      if e.1 ∈ scored then e
      else (e.1, { e.2 with
        score := shareAt share cutoff (place + (unscoredKeys scored entries).idxOf e.1) }) := by
  induction entries generalizing place with
  | nil => rfl
  | cons head rest ih =>
    obtain ⟨number, files⟩ := head
    obtain ⟨hlt, hrest⟩ := List.pairwise_cons.mp hasc
    have hzero' : ∀ e ∈ rest, e.1 ∉ scored → e.2.score = 0 :=
      fun e he => hzero e (List.mem_cons_of_mem _ he)
    by_cases hs : number ∈ scored
    · have hkeys : unscoredKeys scored ((number, files) :: rest) = unscoredKeys scored rest := by
        simp [unscoredKeys, hs]
      have hloop : assignShares scored share cutoff place ((number, files) :: rest) =
          (number, files) :: assignShares scored share cutoff place rest := by
        simp [assignShares, hs]
      rw [hloop, hkeys, ih hrest hzero', List.map_cons, if_pos hs]
    · have hkeys : unscoredKeys scored ((number, files) :: rest) =
          number :: unscoredKeys scored rest := by
        simp [unscoredKeys, hs]
      have hscore : files.score = 0 := hzero (number, files) (by simp) hs
      have hloop : assignShares scored share cutoff place ((number, files) :: rest) =
          (number, { files with score := shareAt share cutoff place }) ::
            assignShares scored share cutoff (place + 1) rest := by
        simp [assignShares, shareAt, hs, hscore]
      rw [hloop, hkeys, ih hrest hzero', List.map_cons, if_neg hs, List.idxOf_cons_self]
      congr 1
      · simp
      · apply List.map_congr_left
        intro e he
        -- A later key is not the first one, so its place is one behind its place in the rest.
        have hne : number ≠ e.1 := Int.ne_of_lt (hlt e he)
        rw [List.idxOf_cons_ne _ hne]
        push_cast
        rw [show place + 1 + ((unscoredKeys scored rest).idxOf e.1 : Int) =
          place + ((unscoredKeys scored rest).idxOf e.1 + 1) by omega]

lemma Unshared.score_eq_zero_of_mem {scan : Scan} (h : scan.Unshared) {e : Int × TestFiles}
    (he : e ∈ scan.tests.entries) (hs : e.1 ∉ scan.scored) : e.2.score = 0 := by
  rw [← test_of_mem he, h.score_eq_zero e.1 hs]

/-- What is known after the shares are given. Each test without an explicit score gets the share at
its place among these tests. -/
theorem entries_inferScores_of_unshared {scan : Scan} (h : scan.Unshared)
    (hne : scan.unscored ≠ []) :
    scan.inferScores.tests.entries = scan.tests.entries.map fun e =>
      if e.1 ∈ scan.scored then e
      else (e.1, { e.2 with
        score := shareAt (scan.remaining.tdiv scan.unscored.length + 1)
          (scan.unscored.length - scan.remaining.tmod scan.unscored.length)
          (scan.unscored.idxOf e.1) }) := by
  simp only [inferScores, if_neg (mt h.size_le_iff.mp hne)]
  rw [assignShares_eq_map scan.tests.ascending fun _ => h.score_eq_zero_of_mem]
  simp only [Int.zero_add]
  rfl

lemma isSome_lookup_iff {lines : List (Int × Int)} {number : Int} :
    (lines.lookup number).isSome ↔ number ∈ lines.map (·.1) := by
  induction lines with
  | nil => simp
  | cons line lines ih =>
    obtain ⟨n, s⟩ := line
    by_cases h : number = n
    · simp [h]
    · have hne : (number == n) = false := by simpa using h
      rw [List.lookup_cons, hne, List.map_cons, List.mem_cons]
      simp [h, ih]

/-- Looking up every scored test gives every score once. -/
lemma foldl_lookup {lines : List (Int × Int)} (h : (lines.map (·.1)).Nodup) (total : Int) :
    (lines.map (·.1)).foldl (fun total number => total + (lines.lookup number).getD 0) total =
      lines.foldl (fun total line => total + line.2) total := by
  -- The lookup goes through all lines, so the induction keeps those in front of the rest.
  have hall : ∀ (front rest : List (Int × Int)) (total : Int), lines = front ++ rest →
      (rest.map (·.1)).foldl (fun total number => total + (lines.lookup number).getD 0) total =
        rest.foldl (fun total line => total + line.2) total := by
    intro front rest
    induction rest generalizing front with
    | nil => simp
    | cons line rest ih =>
      intro total hl
      obtain ⟨number, score⟩ := line
      have hfront : front.lookup number = none := by
        rw [← Option.not_isSome_iff_eq_none, isSome_lookup_iff]
        intro hmem
        rw [hl, List.map_append, List.nodup_append] at h
        exact h.2.2 number hmem number (by simp) rfl
      have hnumber : lines.lookup number = some score := by
        rw [hl, List.lookup_append, hfront]
        simp
      rw [List.map_cons, List.foldl_cons, ih (front ++ [(number, score)]) _ (by simp [hl]),
        hnumber, List.foldl_cons, Option.getD_some]
  exact hall [] lines total rfl

section Infer

variable {scan : Scan} {entries : List Entry}

lemma mem_scored_iff (h : scan.Reads entries) {number : Int} :
    number ∈ scan.scored ↔ (Content.explicitScore? entries number).isSome := by
  rw [h.scored, Content.explicitScore?, isSome_lookup_iff]

lemma keys_eq_testNumbers (h : scan.Reads entries) :
    scan.tests.keys = Content.testNumbers entries := by
  apply Table.eq_of_mem_iff_of_ascending id
  · exact scan.tests.ascending_keys
  · exact Content.ascending_testNumbers entries
  · intro number
    rw [h.known, Content.mem_testNumbers, List.mem_flatMap]

lemma unscored_eq (h : scan.Reads entries) : scan.unscored = Content.unscored entries := by
  rw [unscored, Content.unscored, keys_eq_testNumbers h]
  apply List.filter_congr
  intro number _
  have : number ∈ scan.scored ↔ (Content.explicitScore? entries number).isSome := mem_scored_iff h
  by_cases hs : number ∈ scan.scored
  · simpa [hs] using this.mp hs
  · simpa [hs] using this

lemma remaining_eq (h : scan.Reads entries) (hr : Readable entries) :
    scan.remaining = Content.remaining entries := by
  have hscores : (fun (total number : Int) => total + (scan.test number).score) =
      fun total number => total + ((Content.scoreLines entries).lookup number).getD 0 := by
    funext total number
    rw [h.test]
  rw [remaining, hscores, h.scored, foldl_lookup hr.scores, Content.remaining]

/-- Where everything was read, explicit scores belong to known tests, and no shares were given. -/
lemma Reads.unshared (h : scan.Reads entries) (hr : Readable entries) : scan.Unshared where
  nodup := h.scored ▸ hr.scores
  known number hs := by
    rw [h.scored, List.mem_map] at hs
    obtain ⟨line, hline, rfl⟩ := hs
    obtain ⟨entry, he, hl⟩ := List.mem_flatMap.mp hline
    rw [h.known]
    refine List.mem_flatMap.mpr ⟨entry, he, ?_⟩
    by_cases hk : entry.kind = .scores
    · simp only [Entry.numbers, hk]
      exact List.mem_map_of_mem hl
    · simp [Entry.scoreLines_of_ne hk] at hl
  score_eq_zero number hs := by
    rw [mem_scored_iff h, Content.explicitScore?, Option.not_isSome_iff_eq_none] at hs
    rw [h.test, hs]
    rfl

lemma entries_eq_map_test (h : scan.Reads entries) :
    scan.tests.entries =
      (Content.testNumbers entries).map fun number => (number, scan.test number) := by
  rw [← keys_eq_testNumbers h]
  exact scan.tests.entries_eq_map_keys {}

@[simp] theorem properties_inferScores (scan : Scan) :
    scan.inferScores.properties = scan.properties := by
  rw [inferScores]
  split <;> rfl

/-- After the shares are assigned every test has its final score. -/
theorem entries_inferScores (h : scan.Reads entries) (hr : Readable entries) :
    scan.inferScores.tests.entries = Content.tests entries := by
  have hentries := entries_eq_map_test h
  have hexplicit : ∀ number, number ∈ scan.scored →
      scan.test number = Content.files entries number := by
    intro number hs
    obtain ⟨score, hscore⟩ := Option.isSome_iff_exists.mp ((mem_scored_iff h).mp hs)
    rw [h.test, Content.files, Content.score, hscore]
    rw [Content.explicitScore?] at hscore
    rw [hscore, Option.getD_some]
  by_cases hnil : scan.unscored = []
  · rw [inferScores, if_pos ((h.unshared hr).size_le_iff.mpr hnil), hentries, Content.tests]
    apply List.map_congr_left
    intro number hn
    have hs : number ∈ scan.scored := by
      have hall := List.filter_eq_nil_iff.mp hnil number (keys_eq_testNumbers h ▸ hn)
      simpa using hall
    rw [hexplicit number hs]
  · rw [entries_inferScores_of_unshared (h.unshared hr) hnil, hentries, List.map_map,
      Content.tests, unscored_eq h, remaining_eq h hr]
    apply List.map_congr_left
    intro number hn
    by_cases hs : number ∈ scan.scored
    · simp [hs, hexplicit number hs]
    · have hnone : Content.explicitScore? entries number = none := by
        rw [← Option.not_isSome_iff_eq_none, ← mem_scored_iff h]
        exact hs
      have hshare : shareAt ((Content.remaining entries).tdiv (Content.unscored entries).length + 1)
          ((Content.unscored entries).length -
            (Content.remaining entries).tmod (Content.unscored entries).length)
          ((Content.unscored entries).idxOf number) = Content.score entries number := by
        simp only [Content.score, hnone, Content.share, shareAt]
        congr 1
        split <;> omega
      simpa [hs, h.test, Content.files] using hshare

/-- A scan of a readable archive is valid exactly when the archive can be imported. -/
lemma validate_iff_importable (h : scan.Reads entries) (hr : Readable entries) :
    scan.validate = .ok () ↔ Importable entries := by
  have hposition : ∀ kind, (Content.position entries kind).isSome ↔
      Content.holders entries kind ≠ [] := by
    intro kind
    rw [Option.isSome_iff_ne_none, Ne, Content.position_eq_none_iff]
  rw [validate_eq_ok_iff, h.properties, entries_eq_map_test h, keys_eq_testNumbers h]
  simp only [List.forall_mem_map, h.test, hposition]
  constructor
  · rintro ⟨hgroups, hcomplete⟩
    exact { hr with complete := hcomplete, groups := hgroups }
  · exact fun hi => ⟨hi.groups, hi.complete⟩

end Infer

end Scan

namespace Import

/-- What can be imported is prepared, with the tests and the settings of the archive. -/
theorem prepare_of_importable {entries : List Entry} (h : Importable entries) :
    ∃ scan, prepare entries = .ok scan ∧ scan.tests.entries = Content.tests entries ∧
      scan.properties = Content.settings entries := by
  have hnone := (Scan.readEntries_eq_none_iff entries).mpr h.toReadable
  have hreads := Scan.reads_readEntries hnone
  rcases hread : Scan.readEntries entries {} (List.range entries.length) with ⟨scan, error⟩
  rw [hread] at hnone hreads
  simp only at hnone hreads
  subst hnone
  have hvalid := (Scan.validate_iff_importable hreads h.toReadable).mpr h
  refine ⟨scan.inferScores, ?_, Scan.entries_inferScores hreads h.toReadable, ?_⟩
  · simp [prepare, hread, hvalid, bind, Except.bind, pure, Except.pure]
  · rw [← hreads.properties, Scan.properties_inferScores]

/-- Only what can be imported is prepared. -/
theorem importable_of_prepare {entries : List Entry} {scan : Scan}
    (h : prepare entries = .ok scan) : Importable entries := by
  rcases hread : Scan.readEntries entries {} (List.range entries.length) with ⟨read, error⟩
  cases error with
  | some error => simp [prepare, hread, throw, throwThe, MonadExceptOf.throw] at h
  | none =>
    have hnone : (Scan.readEntries entries {} (List.range entries.length)).2 = none := by rw [hread]
    have hreads := Scan.reads_readEntries hnone
    rw [hread] at hreads
    have hreadable := (Scan.readEntries_eq_none_iff entries).mp hnone
    cases hvalid : read.validate with
    | error cause => simp [prepare, hread, hvalid, bind, Except.bind] at h
    | ok =>
      exact (Scan.validate_iff_importable hreads hreadable).mp hvalid

theorem tests_of_prepare {entries : List Entry} {scan : Scan} (h : prepare entries = .ok scan) :
    scan.tests.entries = Content.tests entries ∧ scan.properties = Content.settings entries := by
  obtain ⟨other, hother, htests⟩ := prepare_of_importable (importable_of_prepare h)
  obtain rfl : scan = other := by simpa [h] using hother
  exact htests

end Import
end Judge.Archive
