import Judge.Proofs.Archive.Received

/-!
Settings that come back from their text as they were. Groups, numbers, single lines and tags of
visible characters always do, so it is up to the limits, which are written with six decimal places.
Tags that were read may hold any other characters too: of these the names come back.
-/

namespace Judge.Archive

open Decimal (int32 int64)
open Text (isBlank isVisible quoteChar trim)

/-! ### Tags -/

/-- A tag that is written as it is, but for a backslash in front of quotes and backslashes. -/
structure IsTag (tag : List Char) : Prop where
  nonempty : tag ≠ []
  trimmed : trim tag = tag
  visible : ∀ c ∈ tag, quoteChar c = [c] ∨ c = '\x22' ∨ c = '\\'

/-- Whether a text is such a tag can be computed. -/
lemma IsTag.of_all {tag : List Char} (hnonempty : tag ≠ []) (htrimmed : trim tag = tag)
    (hvisible : (tag.all fun c => quoteChar c == [c] || c == '\x22' || c == '\\') = true) :
    IsTag tag where
  nonempty := hnonempty
  trimmed := htrimmed
  visible c hc := by simpa [or_assoc] using List.all_eq_true.mp hvisible c hc

/-- A tag as reading gives it: not empty, and without blanks at its ends. -/
structure IsTrimmed (tag : List Char) : Prop where
  nonempty : tag ≠ []
  trimmed : trim tag = tag

lemma IsTrimmed.closeTag_reverse {tag : List Char} (h : IsTrimmed tag) :
    closeTag tag.reverse = [String.ofList tag] := by
  rw [closeTag, List.reverse_reverse, h.trimmed]
  cases tag with
  | nil => exact absurd rfl h.nonempty
  | cons c tag => rfl

/-- A tag is still of this kind when it was written and read again. -/
lemma IsTrimmed.reread {tag : List Char} (h : IsTrimmed tag) : IsTrimmed (tag.flatMap reread) := by
  have hfirst : ∀ c ∈ tag.head?, isBlank c = false := by
    rw [← h.trimmed]
    exact fun c => Text.head?_trim
  have hlast : ∀ c ∈ tag.getLast?, isBlank c = false := by
    rw [← h.trimmed]
    exact fun c => Text.getLast?_trim
  constructor
  · obtain ⟨c, rest, rfl⟩ := List.exists_cons_of_ne_nil h.nonempty
    rcases reread_cases c with ⟨-, hc⟩ | ⟨-, hc⟩
    · simp [hc]
    · obtain ⟨e, more, he, -⟩ := hc.ends.1
      simp [he]
  apply Text.trim_eq_self
  · obtain ⟨c, rest, rfl⟩ := List.exists_cons_of_ne_nil h.nonempty
    rw [List.flatMap_cons]
    rcases reread_cases c with ⟨-, hc⟩ | ⟨-, hc⟩
    · simpa [hc] using hfirst
    · obtain ⟨e, more, he, -, hblank⟩ := hc.ends.1
      simpa [he] using hblank
  · obtain ⟨front, c, rfl⟩ := (List.eq_nil_or_concat tag).resolve_left h.nonempty
    rw [List.concat_eq_append, List.flatMap_append, List.flatMap_singleton]
    rcases reread_cases c with ⟨-, hc⟩ | ⟨-, hc⟩
    · simpa [hc] using hlast
    · obtain ⟨more, e, he, hblank⟩ := hc.ends.2
      simpa [he] using hblank

lemma flatMap_reread_eq_self_iff {tag : List Char} :
    tag.flatMap reread = tag ↔ ∀ c ∈ tag, isVisible c = true := by
  induction tag with
  | nil => simp
  | cons c tag ih =>
    rw [List.flatMap_cons, List.forall_mem_cons]
    rcases reread_cases c with ⟨hvisible, hc⟩ | ⟨hhidden, hc⟩
    · rw [hc, List.singleton_append, List.cons.injEq, ih]
      simp [hvisible]
    -- The name of a character starts with another one, since that one is visible.
    · obtain ⟨e, more, he, hvisible, -⟩ := hc.ends.1
      have hne : e ≠ c := by
        rintro rfl
        simp [hvisible] at hhidden
      simp [he, hne, hhidden]

/-- What becomes of a tag that is written and read again. -/
def respell (tag : String) : String := String.ofList (tag.toList.flatMap reread)

lemma respell_eq_self_iff {tag : String} :
    respell tag = tag ↔ ∀ c ∈ tag.toList, isVisible c = true := by
  rw [← flatMap_reread_eq_self_iff, respell, ← String.toList_inj, String.toList_ofList]

lemma rereadTags_eq_map {tags : List String} (h : ∀ tag ∈ tags, IsTrimmed tag.toList) :
    rereadTags tags = tags.map respell := by
  induction tags with
  | nil => rfl
  | cons tag tags ih =>
    obtain ⟨htag, htags⟩ := List.forall_mem_cons.mp h
    rw [rereadTags, List.flatMap_cons, htag.reread.closeTag_reverse, ← rereadTags, ih htags]
    rfl

lemma isVisible_of_quoteChar {c : Char} (h : quoteChar c = [c] ∨ c = '\x22' ∨ c = '\\') :
    isVisible c = true := by
  have hmarks : isVisible '\x22' = true ∧ isVisible '\\' = true := by decide +kernel
  rcases h with h | rfl | rfl
  · rcases quoteChar_cases c with ⟨-, hvisible, -⟩ | ⟨-, hvisible, -⟩ | ⟨name, hname, -, -⟩
    · exact hvisible
    · exact hvisible
    · obtain rfl : c = '\\' := (List.cons.inj (h.symm.trans hname)).1
      exact hmarks.2
  · exact hmarks.1
  · exact hmarks.2

/-- Tags that are written as they are come back as they are. -/
lemma rereadTags_eq_self {tags : List String} (h : ∀ tag ∈ tags, IsTag tag.toList) :
    rereadTags tags = tags := by
  have hsame : ∀ tag ∈ tags, respell tag = id tag := fun tag htag =>
    respell_eq_self_iff.mpr fun c hc => isVisible_of_quoteChar ((h tag htag).visible c hc)
  rw [rereadTags_eq_map fun tag htag => ⟨(h tag htag).nonempty, (h tag htag).trimmed⟩,
    List.map_congr_left hsame, List.map_id]

/-! ### Settings -/

namespace Properties

/-- Settings whose text holds all of them, limits apart: the groups count from one, numbers fit
their types and are not negative where they count something, texts are trimmed lines, and tags are
written as they are. -/
structure Expressible (p : Properties) : Prop where
  groups : ∀ groups, p.subtasks = some groups → groups.values ≠ [] ∧
    groups.keys = ((List.range groups.size).map fun i : Nat => (i : Int) + 1) ∧
    ∀ group ∈ groups.values, int32.contains group.score = true ∧
      ∀ number ∈ group.tests, int32.contains number = true
  defaultPoints : ∀ points, p.defaultPoints = some points →
    int32.contains points = true ∧ 0 ≤ points
  sourceSize : ∀ size, p.sourceSize = some size → int64.contains size = true ∧ 0 ≤ size
  author : ∀ text, p.author = some text → IsLine text.toList
  source : ∀ text, p.source = some text → IsLine text.toList
  testName : ∀ text, p.testName = some text → IsLine text.toList
  scoringStrategy : ∀ text, p.scoringStrategy = some text → IsLine text.toList
  tags : ∀ tags, p.tags = some tags → ∀ tag ∈ tags, IsTag tag.toList

/-- The limits survive six decimal places: what is written of them is read as the same limits. -/
structure KeepsLimits (p : Properties) : Prop where
  time : ∀ limit, p.timeLimit = some limit →
    readLimit .time (Decimal.writeFixed 6 limit) = .ok limit
  memory : ∀ limit, p.memoryLimit = some limit →
    ∃ read, readLimit .memory (writeMegabytes limit) = .ok read ∧ kilobytes read = limit

variable {p : Properties}

/-- Tags of this kind are the same in the settings that are read. -/
lemma Expressible.ofText_toText (h : p.Expressible) {time : Decimal.Binary64 → Decimal.Binary64}
    {memory : Int → Int} (hrereads : p.Rereads time memory) :
    ofText p.toText = .ok { p with
      timeLimit := p.timeLimit.map time, memoryLimit := p.memoryLimit.map memory } := by
  have htags : p.tags.map rereadTags = p.tags := by
    cases htags : p.tags with
    | none => rfl
    | some tags => rw [Option.map_some, rereadTags_eq_self (h.tags tags htags)]
  rw [ofText_toText_limits hrereads, htags]

/-- Settings come back as they were exactly if their limits do. -/
theorem ofText_toText_iff (h : p.Expressible) : ofText p.toText = .ok p ↔ p.KeepsLimits := by
  constructor
  · intro hsame
    -- Limits that were read can be written and read once more, and here they give themselves.
    obtain ⟨time, memory, hrereads⟩ := (received_of_ofText hsame).exists_rereads
    have heq := Except.ok.inj (hsame.symm.trans (h.ofText_toText hrereads))
    have htime : p.timeLimit = p.timeLimit.map time := congrArg timeLimit heq
    have hmemory : p.memoryLimit = p.memoryLimit.map memory := congrArg memoryLimit heq
    constructor
    · intro limit hlimit
      rw [hlimit, Option.map_some, Option.some.injEq] at htime
      rw [hrereads.timeLimit limit hlimit, ← htime]
    · intro limit hlimit
      rw [hlimit, Option.map_some, Option.some.injEq] at hmemory
      obtain ⟨read, hread, hkilobytes⟩ := hrereads.memoryLimit limit hlimit
      exact ⟨read, hread, hkilobytes.trans hmemory.symm⟩
  · intro hlimits
    have hrereads : p.Rereads id id :=
      { h with timeLimit := hlimits.time, memoryLimit := hlimits.memory }
    rw [h.ofText_toText hrereads, Option.map_id, Option.map_id]
    rfl

/-- Settings with a group that lists no tests, and texts and tags with characters that mean something
in files of settings. -/
def intricate : Properties where
  subtasks := some (.ofList [(1, ⟨70, [1, -2]⟩), (2, ⟨-5, []⟩), (3, ⟨0, [3]⟩)])
  timeLimit := some (.ofDecimal false 15 (-1))
  memoryLimit := some 65536
  defaultPoints := some 0
  author := some "J. = #, \r Doe"
  source := some ""
  consoleInput := some true
  testName := some "#sum"
  tags := some ["dp, trees", "a \"b\" \\ c", "é"]
  sourceSize := some 20000
  scoringStrategy := some "sum=1"

lemma expressible_intricate : intricate.Expressible where
  groups := Draft.forall_some ⟨by decide +kernel, by decide +kernel, by decide +kernel⟩
  defaultPoints := Draft.forall_some (by decide)
  sourceSize := Draft.forall_some (by decide)
  author := Draft.forall_some ⟨by decide +kernel, by decide +kernel⟩
  source := Draft.forall_some ⟨by decide +kernel, by decide +kernel⟩
  testName := Draft.forall_some ⟨by decide +kernel, by decide +kernel⟩
  scoringStrategy := Draft.forall_some ⟨by decide +kernel, by decide +kernel⟩
  tags := Draft.forall_some <| List.forall_mem_cons.mpr
    ⟨.of_all (by decide) (by decide) (by decide +kernel), List.forall_mem_cons.mpr
      ⟨.of_all (by decide) (by decide) (by decide +kernel), List.forall_mem_singleton.mpr
        (.of_all (by decide) (by decide) (by decide +kernel))⟩⟩

theorem ofText_toText_iff_intricate :
    intricate.Expressible ∧ intricate.KeepsLimits ∧ ofText intricate.toText = .ok intricate := by
  have hlimits : intricate.KeepsLimits := {
    time := Draft.forall_some (by decide +kernel)
    memory := Draft.forall_some ⟨.ofInt 64, by decide +kernel, by decide +kernel⟩ }
  exact ⟨expressible_intricate, hlimits, (ofText_toText_iff expressible_intricate).mpr hlimits⟩

/-! ### Tags of any characters -/

lemma isTrimmed_of_closeTag {tag : List Char} {read : String} (h : read ∈ closeTag tag) :
    IsTrimmed read.toList := by
  rw [closeTag] at h
  split at h
  · contradiction
  · next hne =>
    obtain rfl := List.mem_singleton.mp h
    rw [String.toList_ofList]
    exact ⟨hne, Text.trim_trim _⟩

/-- Tags that were read are not empty and have no blanks at their ends. -/
lemma isTrimmed_of_readTags {inQuotes : Bool} {tag value : List Char} {tags : List String}
    (h : readTags inQuotes tag value = .ok tags) : ∀ tag ∈ tags, IsTrimmed tag.toList := by
  fun_induction readTags inQuotes tag value generalizing tags with
  | case1 | case4 => contradiction
  | case2 =>
    rw [← Except.ok.inj h]
    exact fun _ => isTrimmed_of_closeTag
  | case6 _ _ _ _ _ _ _ ih =>
    obtain ⟨behind, hbehind, rfl⟩ := exists_of_map_eq_ok h
    exact List.forall_mem_append.mpr ⟨fun _ => isTrimmed_of_closeTag, ih hbehind⟩
  | case3 _ _ _ ih | case5 _ _ _ _ _ _ _ ih | case7 _ _ _ _ _ _ _ ih => exact ih h

/-- The tags of a text are still the same after they were written and read again exactly if all their
characters are visible. Of every other character its name is read. -/
theorem ofText_toText_tags {text : List Char} (h : ofText text = .ok p) :
    ∃ again, ofText p.toText = .ok again ∧ again.tags = p.tags.map (·.map respell) ∧
      (again.tags = p.tags ↔ ∀ tags, p.tags = some tags →
        ∀ tag ∈ tags, ∀ c ∈ tag.toList, isVisible c = true) := by
  obtain ⟨time, memory, hrereads⟩ := (received_of_ofText h).exists_rereads
  refine ⟨_, ofText_toText_limits hrereads, ?_⟩
  cases htags : p.tags with
  | none => simp
  | some tags =>
    obtain ⟨value, hvalue⟩ := exists_readTags_of_ofText h htags
    have hmap := rereadTags_eq_map (isTrimmed_of_readTags hvalue)
    have hself : tags.map respell = tags ↔ ∀ tag ∈ tags, respell tag = tag := by
      simpa using @List.map_inj_left _ _ tags respell id
    simp only [Option.map_some, hmap, true_and, Option.some.injEq, forall_eq', hself,
      respell_eq_self_iff]

/-- A tab in a tag is written as its name, which is read as the letter t. -/
theorem exists_tags_not_kept : ∃ p again, ofText "tags=a\tb".toList = .ok p ∧
    p.tags = some ["a\tb"] ∧ ofText p.toText = .ok again ∧ again.tags = some ["atb"] := by
  refine ⟨{ tags := some ["a\tb"] }, { tags := some ["atb"] }, ?_, rfl, ?_, rfl⟩
  · decide +kernel
  · decide +kernel

theorem ofText_toText_tags_quoted : ∃ p again,
    ofText "tags=\"dp, trees\", a \"\\\"b\\\"\" ,é, \"c\\\\d\"".toList = .ok p ∧
      p.tags = some ["dp, trees", "a \"b\"", "é", "c\\d"] ∧ ofText p.toText = .ok again ∧
      again.tags = p.tags := by
  let p : Properties := { tags := some ["dp, trees", "a \"b\"", "é", "c\\d"] }
  have hread : ofText "tags=\"dp, trees\", a \"\\\"b\\\"\" ,é, \"c\\\\d\"".toList = .ok p := by
    decide +kernel
  obtain ⟨again, hagain, -, htags⟩ := ofText_toText_tags hread
  refine ⟨p, again, hread, rfl, hagain, htags.mpr ?_⟩
  have hvisible : (["dp, trees", "a \"b\"", "é", "c\\d"].all fun tag => tag.toList.all isVisible) =
      true := by decide +kernel
  rintro _ ⟨⟩ tag htag
  exact List.all_eq_true.mp (List.all_eq_true.mp hvisible tag htag)

end Properties
end Judge.Archive
