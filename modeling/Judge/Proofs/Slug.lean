import Mathlib.Tactic.Lemma
import Judge.Slug
import Judge.Proofs.Text.Lines
import Judge.Text.Blank

/-!
Slugs are the runs of letters and digits of a text in lower case, joined by dashes. The lower-case
form of a letter or digit is one letter or digit that is in lower case already, but for the capital I
with a dot above: that gives an i and a combining dot, which is neither. So a slug is made of letters,
digits and single dashes, and is its own slug, exactly if the text has no such capital.
-/

namespace Judge

namespace Text

/-! ### Tables of code points -/

/-- The code points of blanks. -/
def blankRanges : List (Nat × Nat) := [
  (9, 13), (0x20, 0x20), (0x85, 0x85), (0xA0, 0xA0), (0x1680, 0x1680), (0x2000, 0x200A),
  (0x2028, 0x2029), (0x202F, 0x202F), (0x205F, 0x205F), (0x3000, 0x3000)]

lemma inRanges_of_isBlank {c : Char} (h : isBlank c = true) : inRanges blankRanges c.toNat = true := by
  simp only [isBlank, Bool.or_eq_true, Bool.and_eq_true, decide_eq_true_eq, beq_iff_eq] at h
  simp only [inRanges, blankRanges, List.any_cons, List.any_nil, Bool.or_eq_true,
    Bool.and_eq_true, decide_eq_true_eq]
  omega

/-- Two tables of ranges that do not meet. -/
def Apart (a b : List (Nat × Nat)) : Prop :=
  ∀ r ∈ a, ∀ s ∈ b, r.2 < s.1 ∨ s.2 < r.1

instance (a b : List (Nat × Nat)) : Decidable (Apart a b) :=
  inferInstanceAs (Decidable (∀ r ∈ a, ∀ s ∈ b, r.2 < s.1 ∨ s.2 < r.1))

lemma not_isBlank_of_inRanges {ranges : List (Nat × Nat)} (hapart : Apart ranges blankRanges)
    {c : Char} (h : inRanges ranges c.toNat = true) : isBlank c = false := by
  rw [Bool.eq_false_iff]
  intro hblank
  obtain ⟨r, hr, hfirst, hlast⟩ := inRanges_iff.mp h
  obtain ⟨s, hs, hfirst', hlast'⟩ := inRanges_iff.mp (inRanges_of_isBlank hblank)
  have := hapart r hr s hs
  omega

theorem not_isBlank_of_isAlphanumeric {c : Char} (h : isAlphanumeric c = true) :
    isBlank c = false :=
  not_isBlank_of_inRanges (by decide +kernel) h

/-- The first and the last code point that the capitals of a run map to. -/
def targets (run : Nat × Nat × Nat × Nat) : Nat × Nat :=
  (run.2.2.2, run.2.2.2 + (run.2.1 - run.1))

/-- Whether a run of capitals maps to letters and digits. -/
def mapsToLetters (run : Nat × Nat × Nat × Nat) : Bool :=
  alphanumericRanges.any fun r => r.1.ble (targets run).1 && (targets run).2.ble r.2

/-- Whether a run of capitals maps to none of the capitals of another run. These lie elsewhere, or
they are every other code point, and what is mapped to stands between them. -/
def mapsBeside (run other : Nat × Nat × Nat × Nat) : Bool :=
  (targets run).2.blt other.1 || other.2.1.blt (targets run).1 ||
    (other.2.2.1 == 2 && (run.2.2.1 == 2 || run.1 == run.2.1) &&
      ((targets run).1 + other.1) % 2 == 1)

lemma exists_run {n code : Nat} (h : lowercaseCode? n = some code) :
    ∃ run ∈ lowercaseRuns, run.1 ≤ n ∧ n ≤ run.2.1 ∧ (n - run.1) % run.2.2.1 = 0 ∧
      code = run.2.2.2 + (n - run.1) := by
  obtain ⟨run, hrun, hcode⟩ := List.exists_of_findSome?_eq_some h
  obtain ⟨⟨hfirst, hlast, hstep⟩, hcode⟩ := Option.ite_none_right_eq_some.mp hcode
  exact ⟨run, hrun, hfirst, hlast, hstep, (Option.some.inj hcode).symm⟩

lemma inRanges_of_lowercaseCode? {n code : Nat} (h : lowercaseCode? n = some code) :
    inRanges alphanumericRanges code = true := by
  have hall : lowercaseRuns.all mapsToLetters = true := by decide +kernel
  obtain ⟨run, hrun, hfirst, hlast, -, rfl⟩ := exists_run h
  obtain ⟨r, hr, hwithin⟩ := List.any_eq_true.mp (List.all_eq_true.mp hall run hrun)
  simp only [targets, Bool.and_eq_true, Nat.ble_eq] at hwithin
  exact inRanges_iff.mpr ⟨r, hr, by omega, by omega⟩

/-- What a capital maps to is no capital. -/
lemma lowercaseCode?_of_lowercaseCode? {n code : Nat} (h : lowercaseCode? n = some code) :
    lowercaseCode? code = none := by
  have hall : (lowercaseRuns.all fun run => lowercaseRuns.all (mapsBeside run)) = true := by
    decide +kernel
  cases hagain : lowercaseCode? code with
  | none => rfl
  | some last =>
    obtain ⟨run, hrun, hfirst, hlast, hstep, rfl⟩ := exists_run h
    obtain ⟨other, hother, hfirst', hlast', hstep', -⟩ := exists_run hagain
    have hbeside := List.all_eq_true.mp (List.all_eq_true.mp hall run hrun) other hother
    simp only [mapsBeside, targets, Bool.or_eq_true, Bool.and_eq_true, Nat.blt_eq,
      beq_iff_eq] at hbeside
    rcases hbeside with (hbefore | hbehind) | ⟨⟨htwo, hkind⟩, hodd⟩
    · omega
    · omega
    -- The distance between two such code points is odd.
    · rw [htwo] at hstep'
      rcases hkind with hkind | hkind
      · rw [hkind] at hstep
        omega
      · omega

lemma isValidChar_of_isAlphanumeric {code : Nat} (h : inRanges alphanumericRanges code = true) :
    code.isValidChar := by
  have hall : alphanumericRanges.all (fun r =>
      r.2.blt 0xD800 || (Nat.blt 0xDFFF r.1 && r.2.blt 0x110000)) = true := by decide +kernel
  obtain ⟨r, hr, hfirst, hlast⟩ := inRanges_iff.mp h
  have hr := List.all_eq_true.mp hall r hr
  simp only [Bool.or_eq_true, Bool.and_eq_true, Nat.blt_eq] at hr
  rw [Nat.isValidChar]
  omega

/-- Nothing maps to the capital I with a dot above. -/
lemma lowercaseCode?_ne_dotted {n code : Nat} (h : lowercaseCode? n = some code) : code ≠ 0x130 := by
  have hall : lowercaseRuns.all (mapsBeside · (0x130, 0x130, 1, 0)) = true := by decide +kernel
  obtain ⟨run, hrun, hfirst, hlast, -, rfl⟩ := exists_run h
  have hbeside := List.all_eq_true.mp hall run hrun
  simp [mapsBeside, targets] at hbeside
  omega

/-! ### Lower case -/

lemma lowercase_of_none {c : Char} (hdotted : c ≠ '\u0130') (h : lowercaseCode? c.toNat = none) :
    lowercase c = [c] := by
  rw [lowercase, if_neg hdotted, h]

/-- The lower-case form of a letter or digit is one that is in lower case, with one exception. -/
theorem exists_lowercase {c : Char} (h : isAlphanumeric c = true) (hdotted : c ≠ '\u0130') :
    ∃ d, lowercase c = [d] ∧ isAlphanumeric d = true ∧ lowercase d = [d] := by
  cases hcode : lowercaseCode? c.toNat with
  | none => exact ⟨c, lowercase_of_none hdotted hcode, h, lowercase_of_none hdotted hcode⟩
  | some code =>
    have hletter := inRanges_of_lowercaseCode? hcode
    have hsame : (Char.ofNat code).toNat = code := by
      rw [Char.ofNat, dif_pos (isValidChar_of_isAlphanumeric hletter)]
      rfl
    have hnext : lowercaseCode? (Char.ofNat code).toNat = none := by
      rw [hsame]
      exact lowercaseCode?_of_lowercaseCode? hcode
    have hdotted' : Char.ofNat code ≠ '\u0130' := by
      intro heq
      rw [heq] at hsame
      exact lowercaseCode?_ne_dotted hcode hsame.symm
    refine ⟨Char.ofNat code, ?_, ?_, lowercase_of_none hdotted' hnext⟩
    · rw [lowercase, if_neg hdotted, hcode]
    · rw [isAlphanumeric, hsame]
      exact hletter

/-- No lower-case form of a letter or digit has a blank. -/
lemma not_isBlank_of_mem_lowercase {c d : Char} (hc : isAlphanumeric c = true)
    (hd : d ∈ lowercase c) : isBlank d = false := by
  by_cases hdotted : c = '\u0130'
  · subst hdotted
    have hall : (lowercase '\u0130').all (!isBlank ·) = true := by decide
    simpa using List.all_eq_true.mp hall d hd
  · obtain ⟨e, hlower, he, -⟩ := exists_lowercase hc hdotted
    obtain rfl : d = e := by simpa [hlower] using hd
    exact not_isBlank_of_isAlphanumeric he

lemma dotted_notMem_lowercase {c : Char} (hc : isAlphanumeric c = true) :
    '\u0130' ∉ lowercase c := by
  intro hmem
  by_cases hdotted : c = '\u0130'
  · subst hdotted
    exact absurd hmem (by decide)
  · obtain ⟨d, hlower, -, hd⟩ := exists_lowercase hc hdotted
    obtain rfl : '\u0130' = d := by simpa [hlower] using hmem
    exact absurd hd (by decide)

end Text

namespace Slug

open Text (isAlphanumeric isBlank join lowercase)

/-! ### Runs of letters and digits -/

/-- The runs of letters and digits of a text. -/
def runs (text : List Char) : List (List Char) :=
  (text.splitOnP fun c => !isAlphanumeric c).filter (· ≠ [])

lemma runs_skip {c : Char} (h : isAlphanumeric c = false) (rest : List Char) :
    runs (c :: rest) = runs rest := by
  simp [runs, List.splitOnP_cons_eq_if_modifyHead, h]

/-- The pieces between other characters are letters and digits of the text. -/
lemma mem_of_mem_splitOnP {text piece : List Char}
    (h : piece ∈ text.splitOnP fun c => !isAlphanumeric c) :
    ∀ c ∈ piece, c ∈ text ∧ isAlphanumeric c = true := by
  induction text generalizing piece with
  | nil =>
    rw [List.splitOnP_nil] at h
    rw [List.mem_singleton.mp h]
    simp
  | cons c text ih =>
    have hmore : ∀ piece ∈ text.splitOnP fun c => !isAlphanumeric c,
        ∀ d ∈ piece, d ∈ c :: text ∧ isAlphanumeric d = true :=
      fun piece hpiece d hd => ⟨List.mem_cons_of_mem c (ih hpiece d hd).1, (ih hpiece d hd).2⟩
    rw [List.splitOnP_cons_eq_if_modifyHead] at h
    cases hc : isAlphanumeric c with
    | false =>
      rw [hc, Bool.not_false, if_pos rfl] at h
      rcases List.mem_cons.mp h with rfl | h
      · simp
      · exact hmore piece h
    | true =>
      obtain ⟨first, others, hpieces⟩ := List.exists_cons_of_ne_nil
        (List.splitOnP_ne_nil (fun c => !isAlphanumeric c) text)
      rw [hc, Bool.not_true, if_neg (by decide), hpieces, List.modifyHead_cons] at h
      rcases List.mem_cons.mp h with rfl | h
      · exact List.forall_mem_cons.mpr
          ⟨⟨List.mem_cons_self, hc⟩, hmore first (hpieces ▸ List.mem_cons_self)⟩
      · exact hmore piece (hpieces ▸ List.mem_cons_of_mem _ h)

/-- A run of letters and digits. -/
structure IsRun (run : List Char) : Prop where
  nonempty : run ≠ []
  alphanumeric : ∀ c ∈ run, isAlphanumeric c = true

lemma isRun_of_mem_runs {text run : List Char} (h : run ∈ runs text) : IsRun run := by
  obtain ⟨hpiece, hne⟩ := List.mem_filter.mp h
  exact ⟨by simpa using hne, fun c hc => (mem_of_mem_splitOnP hpiece c hc).2⟩

lemma mem_of_mem_runs {text run : List Char} (h : run ∈ runs text) {c : Char} (hc : c ∈ run) :
    c ∈ text :=
  (mem_of_mem_splitOnP (List.mem_filter.mp h).1 c hc).1

/-- Runs that are joined by dashes are the runs of that text. -/
lemma runs_join {pieces : List (List Char)} (h : ∀ piece ∈ pieces, IsRun piece) :
    runs (join ['-'] pieces) = pieces := by
  have hdash : (!isAlphanumeric '-') = true := by decide +kernel
  induction pieces with
  | nil => rfl
  | cons piece pieces ih =>
    obtain ⟨hpiece, hpieces⟩ := List.forall_mem_cons.mp h
    have hplain : ∀ c ∈ piece, (!isAlphanumeric c) = false := by simpa using hpiece.alphanumeric
    cases pieces with
    | nil => simp [join, runs, List.splitOnP_eq_singleton hplain, hpiece.nonempty]
    | cons next pieces =>
      have hrest := ih hpieces
      rw [runs] at hrest
      rw [join, List.append_assoc, List.singleton_append, runs,
        List.splitOnP_append_cons_of_forall_mem hplain '-' hdash,
        List.filter_cons_of_pos (by simpa using hpiece.nonempty), hrest]
      simp

/-- What the slug goes on with behind a run. -/
def dashed (pieces : List (List Char)) : List Char :=
  (pieces.filter (· ≠ [])).flatMap fun run => '-' :: run.flatMap lowercase

lemma join_cons (separator : Char) (piece : List Char) (pieces : List (List Char)) :
    join [separator] (piece :: pieces) = piece ++ pieces.flatMap (separator :: ·) := by
  induction pieces generalizing piece with
  | nil => simp [join]
  | cons next pieces ih => simp [join, ih]

/-- The slug from the middle of a run on, and from behind a run on. -/
lemma slugFrom_started {text first : List Char} {others : List (List Char)}
    (h : (text.splitOnP fun c => !isAlphanumeric c) = first :: others) :
    slugFrom true false text = first.flatMap lowercase ++ dashed others ∧
      slugFrom true true text = dashed (first :: others) := by
  induction text generalizing first others with
  | nil =>
    obtain ⟨rfl, rfl⟩ := List.cons.inj (List.splitOnP_nil.symm.trans h)
    exact ⟨rfl, rfl⟩
  | cons c text ih =>
    obtain ⟨next, more, hpieces⟩ := List.exists_cons_of_ne_nil
      (List.splitOnP_ne_nil (fun c => !isAlphanumeric c) text)
    obtain ⟨hrun, hbehind⟩ := ih hpieces
    rw [List.splitOnP_cons_eq_if_modifyHead, hpieces] at h
    cases hc : isAlphanumeric c with
    | false =>
      obtain ⟨rfl, rfl⟩ : [] = first ∧ next :: more = others := by simpa [hc] using h
      simp [slugFrom, hc, hbehind, dashed]
    | true =>
      obtain ⟨rfl, rfl⟩ : c :: next = first ∧ more = others := by simpa [hc] using h
      simp [slugFrom, hc, hrun, dashed]

/-- A slug is made of the runs of its text in lower case. -/
theorem slugFrom_eq_join (pending : Bool) (text : List Char) : slugFrom false pending text =
    join ['-'] ((runs text).map fun run => run.flatMap lowercase) := by
  induction text generalizing pending with
  | nil => rfl
  | cons c text ih =>
    cases hc : isAlphanumeric c with
    | false =>
      rw [runs_skip hc, ← ih true]
      simp [slugFrom, hc]
    | true =>
      obtain ⟨first, others, hpieces⟩ := List.exists_cons_of_ne_nil
        (List.splitOnP_ne_nil (fun c => !isAlphanumeric c) text)
      have hruns : runs (c :: text) = (c :: first) :: others.filter (· ≠ []) := by
        simp [runs, List.splitOnP_cons_eq_if_modifyHead, hc, hpieces]
      rw [hruns, List.map_cons, join_cons, List.flatMap_map]
      simp [slugFrom, hc, (slugFrom_started hpieces).1, dashed]

theorem toList_ofText (text : String) : (ofText text).toList =
    join ['-'] ((runs text.toList).map fun run => run.flatMap lowercase) := by
  rw [ofText, String.toList_ofList, slugFrom_eq_join]

lemma mem_ofText {text : String} {c : Char} (h : c ∈ (ofText text).toList) :
    c = '-' ∨ ∃ d, isAlphanumeric d = true ∧ c ∈ lowercase d := by
  rw [toList_ofText] at h
  rcases Text.mem_join h with h | ⟨piece, hpiece, h⟩
  · exact .inl (List.mem_singleton.mp h)
  · obtain ⟨run, hrun, rfl⟩ := List.mem_map.mp hpiece
    obtain ⟨d, hd, h⟩ := List.mem_flatMap.mp h
    exact .inr ⟨d, (isRun_of_mem_runs hrun).alphanumeric d hd, h⟩

/-- A slug has no blanks. -/
theorem not_isBlank_of_mem_ofText {text : String} {c : Char} (h : c ∈ (ofText text).toList) :
    isBlank c = false := by
  rcases mem_ofText h with rfl | ⟨d, hd, h⟩
  · decide
  · exact Text.not_isBlank_of_mem_lowercase hd h

/-! ### Slugs -/

/-- A slug consists of runs of letters and digits with single dashes between them. -/
def IsSlug (text : List Char) : Prop :=
  ∃ runs : List (List Char), (∀ run ∈ runs, IsRun run) ∧ text = join ['-'] runs

lemma isAlphanumeric_of_mem_isSlug {text : List Char} (h : IsSlug text) {c : Char} (hc : c ∈ text) :
    isAlphanumeric c = true ∨ c = '-' := by
  obtain ⟨runs, hruns, rfl⟩ := h
  rcases Text.mem_join hc with hc | ⟨run, hrun, hc⟩
  · exact .inr (List.mem_singleton.mp hc)
  · exact .inl ((hruns run hrun).alphanumeric c hc)

section Lowercase

variable {run : List Char}

lemma IsRun.mem_lowercase (h : IsRun run) (hdotted : '\u0130' ∉ run) {d : Char}
    (hd : d ∈ run.flatMap lowercase) : isAlphanumeric d = true ∧ lowercase d = [d] := by
  obtain ⟨c, hc, hd⟩ := List.mem_flatMap.mp hd
  have hne : c ≠ '\u0130' := fun heq => hdotted (heq ▸ hc)
  obtain ⟨e, hlower, he⟩ := Text.exists_lowercase (h.alphanumeric c hc) hne
  obtain rfl : d = e := by simpa [hlower] using hd
  exact he

/-- A run in lower case is a run. -/
lemma IsRun.isRun_lowercase (h : IsRun run) (hdotted : '\u0130' ∉ run) :
    IsRun (run.flatMap lowercase) where
  nonempty := by
    obtain ⟨c, rest, rfl⟩ := List.exists_cons_of_ne_nil h.nonempty
    rw [List.mem_cons, not_or] at hdotted
    obtain ⟨e, hlower, -⟩ := Text.exists_lowercase (h.alphanumeric c (by simp)) (Ne.symm hdotted.1)
    simp [hlower]
  alphanumeric d hd := (h.mem_lowercase hdotted hd).1

lemma IsRun.lowercase_lowercase (h : IsRun run) (hdotted : '\u0130' ∉ run) :
    (run.flatMap lowercase).flatMap lowercase = run.flatMap lowercase := by
  have hsame : ∀ d ∈ run.flatMap lowercase, lowercase d = [d] :=
    fun d hd => (h.mem_lowercase hdotted hd).2
  rw [List.flatMap_congr hsame, List.flatMap_singleton']

end Lowercase

section Dotted

variable {text : String}

/-- Without a capital I with a dot above the runs in lower case are runs. -/
lemma isRun_lowercase_of_mem_runs (h : '\u0130' ∉ text.toList) :
    ∀ run ∈ (runs text.toList).map fun run => run.flatMap lowercase, IsRun run := by
  refine List.forall_mem_map.mpr fun run hrun => ?_
  exact (isRun_of_mem_runs hrun).isRun_lowercase fun hmem => h (mem_of_mem_runs hrun hmem)

lemma isSlug_ofText (h : '\u0130' ∉ text.toList) : IsSlug (ofText text).toList :=
  ⟨_, isRun_lowercase_of_mem_runs h, toList_ofText text⟩

lemma ofText_ofText (h : '\u0130' ∉ text.toList) : ofText (ofText text) = ofText text := by
  rw [← String.toList_inj, toList_ofText (ofText text), toList_ofText text,
    runs_join (isRun_lowercase_of_mem_runs h), List.map_map]
  congr 1
  refine List.map_congr_left fun run hrun => ?_
  exact (isRun_of_mem_runs hrun).lowercase_lowercase fun hmem => h (mem_of_mem_runs hrun hmem)

/-- The lower-case form of the capital I with a dot above ends with a combining dot. -/
lemma mem_slugFrom_of_dotted {text : List Char} (h : '\u0130' ∈ text) (started pending : Bool) :
    '\u0307' ∈ slugFrom started pending text := by
  induction text generalizing started pending with
  | nil => contradiction
  | cons c text ih =>
    rw [slugFrom]
    rcases List.mem_cons.mp h with rfl | h
    · have hletter : isAlphanumeric '\u0130' = true := by decide +kernel
      have hdot : '\u0307' ∈ lowercase '\u0130' := by decide
      rw [if_pos hletter]
      simp [hdot]
    · split
      · exact List.mem_append_right _ (ih h _ _)
      · exact ih h _ _

lemma mem_ofText_of_dotted (h : '\u0130' ∈ text.toList) : '\u0307' ∈ (ofText text).toList := by
  rw [ofText, String.toList_ofList]
  exact mem_slugFrom_of_dotted h false false

/-- A slug has no capital I with a dot above itself. -/
lemma dotted_notMem_ofText (text : String) : '\u0130' ∉ (ofText text).toList := by
  intro h
  rcases mem_ofText h with h | ⟨d, hd, h⟩
  · exact absurd h (by decide)
  · exact Text.dotted_notMem_lowercase hd h

/-- A combining dot is no letter or digit. -/
lemma dot_notMem_of_isSlug {text : List Char} (h : IsSlug text) : '\u0307' ∉ text := by
  intro hmem
  have hdot : ¬ (isAlphanumeric '\u0307' = true ∨ '\u0307' = '-') := by decide +kernel
  exact hdot (isAlphanumeric_of_mem_isSlug h hmem)

end Dotted

/-- A slug is made of the runs of letters and digits of its text, in lower case and joined by dashes.
These runs are such runs again, and the slug is its own slug, exactly if the text has no capital I
with a dot above. -/
theorem ofText_slug (text : String) :
    (ofText text).toList = join ['-'] ((runs text.toList).map fun run => run.flatMap lowercase) ∧
    (IsSlug (ofText text).toList ↔ '\u0130' ∉ text.toList) ∧
    (ofText (ofText text) = ofText text ↔ '\u0130' ∉ text.toList) := by
  refine ⟨toList_ofText text, ⟨fun hslug hdotted => ?_, isSlug_ofText⟩,
    ⟨fun hsame hdotted => ?_, ofText_ofText⟩⟩
  · exact dot_notMem_of_isSlug hslug (mem_ofText_of_dotted hdotted)
  -- The slug of a slug has no combining dot.
  · have hslug := isSlug_ofText (dotted_notMem_ofText text)
    rw [hsame] at hslug
    exact dot_notMem_of_isSlug hslug (mem_ofText_of_dotted hdotted)

theorem ofText_dotted : ofText "\u0130" = "i\u0307" ∧ ¬ IsSlug (ofText "\u0130").toList ∧
    ofText (ofText "\u0130") = "i" := by
  have hslug : ofText "\u0130" = "i\u0307" := by decide +kernel
  refine ⟨hslug, fun h => dot_notMem_of_isSlug h ?_, ?_⟩
  · rw [hslug]
    decide
  · rw [hslug]
    decide +kernel

end Slug
end Judge
