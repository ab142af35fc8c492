import Judge.Proofs.Basic
import Judge.Proofs.Checker.Diff
import Judge.Proofs.Text.Stretches

/-!
Comparing bytes that may be no text. What is compared are the lines of the bytes, each of them
stretch by stretch, and all stretches that are shown as U+FFFD pass for the same.
-/

namespace Judge.Checker

open Text (byteLines closeLine lines linesFrom trimEnd isBlank)
open Utf8 (decodeLossy encode stretches shown)

/-! ### Lines -/

@[simp] lemma decodeLossy_nil : decodeLossy [] = [] := by simp [decodeLossy]

@[simp] lemma decodeLossy_eq_nil_iff {bytes : Bytes} : decodeLossy bytes = [] ↔ bytes = [] := by
  rw [Utf8.decodeLossy_eq_map, List.map_eq_nil_iff]
  constructor
  · intro h
    rw [← Utf8.flatten_stretches bytes, h, List.flatten_nil]
  · rintro rfl
    exact Utf8.stretches_nil

lemma decodeLossy_append_ascii {b : UInt8} (hb : b < 0x80) (front rest : Bytes) :
    decodeLossy (front ++ b :: rest) =
      decodeLossy front ++ Char.ofNat b.toNat :: decodeLossy rest := by
  rw [Utf8.decodeLossy_eq_map, Utf8.stretches_append_ascii hb, List.map_append, List.map_cons,
    ← Utf8.decodeLossy_eq_map, ← Utf8.decodeLossy_eq_map, Utf8.shown_ascii hb]

lemma closeLine_decodeLossy (line : Bytes) :
    closeLine '\r' (decodeLossy line).reverse = decodeLossy (closeLine 13 line.reverse) := by
  by_cases h : line.getLast? = some 13
  · obtain ⟨front, rfl⟩ := List.getLast?_eq_some_iff.mp h
    have hread : decodeLossy (front ++ [13]) = decodeLossy front ++ ['\r'] := by
      rw [decodeLossy_append_ascii (by decide), decodeLossy_nil]
      rfl
    rw [hread, Text.closeLine_concat, Text.closeLine_concat]
  · have hlast : (decodeLossy line).getLast? ≠ some '\r' := fun hread =>
      h (Utf8.getLast?_of_decodeLossy (by decide) hread)
    rw [Text.closeLine_reverse hlast, Text.closeLine_reverse h]

/-- The lines of decoded bytes are the decoded lines. -/
theorem lines_decodeLossy (bytes : Bytes) :
    lines (decodeLossy bytes) = (byteLines bytes).map decodeLossy := by
  -- A line feed stands for itself, so bytes and what is shown are cut at the same places.
  induction bytes using Text.lines_induction (10 : UInt8) with
  | last bytes h =>
    by_cases hne : bytes = []
    · simp [hne]
    · have hread : decodeLossy bytes ≠ [] := by simpa using hne
      have hnewline : '\n' ∉ decodeLossy bytes := Utf8.notMem_decodeLossy (by decide) h
      rw [byteLines, Text.linesFrom_of_notMem h hne, lines,
        Text.linesFrom_of_notMem hnewline hread]
      rfl
  | line front rest h ih =>
    have hnewline : '\n' ∉ decodeLossy front := Utf8.notMem_decodeLossy (by decide) h
    rw [decodeLossy_append_ascii (by decide), byteLines, Text.linesFrom_append_cons h, List.map_cons,
      ← closeLine_decodeLossy]
    exact (Text.linesFrom_append_cons hnewline _).trans (congrArg _ ih)

/-! ### Trimming -/

/-- A line without the white space at its end, which it encodes. -/
def trimBytes (line : Bytes) : Bytes :=
  ((stretches line).rdropWhile fun stretch => isBlank (shown stretch)).flatten

lemma stretches_trimBytes (line : Bytes) :
    stretches (trimBytes line) =
      (stretches line).rdropWhile fun stretch => isBlank (shown stretch) :=
  Utf8.stretches_flatten (List.rdropWhile_prefix _ _)

lemma rdropWhile_map {α β : Type} (f : α → β) (p : β → Bool) (l : List α) :
    (l.map f).rdropWhile p = (l.rdropWhile fun a => p (f a)).map f := by
  rw [List.rdropWhile, List.rdropWhile, ← List.map_reverse, List.dropWhile_map, List.map_reverse]
  rfl

theorem decodeLossy_trimBytes (line : Bytes) :
    decodeLossy (trimBytes line) = trimEnd (decodeLossy line) := by
  rw [Utf8.decodeLossy_eq_map, stretches_trimBytes, Utf8.decodeLossy_eq_map]
  exact (rdropWhile_map shown isBlank (stretches line)).symm

lemma character?_of_isBlank {stretch : Bytes} (h : isBlank (shown stretch) = true) :
    Utf8.character? stretch = some (shown stretch) := by
  cases hc : Utf8.character? stretch with
  | none =>
    rw [shown, hc] at h
    exact absurd h (by decide)
  | some c => rw [shown, hc, Option.getD_some]

/-- What is trimmed is white space, and no white space is left at the end. -/
theorem trimBytes_spec (line : Bytes) :
    (∃ blanks, (∀ c ∈ blanks, isBlank c = true) ∧ line = trimBytes line ++ encode blanks) ∧
      ∀ c, isBlank c = true → ¬ encode [c] <:+ trimBytes line := by
  constructor
  · have hblank : ∀ stretch ∈ (stretches line).rtakeWhile fun stretch => isBlank (shown stretch),
        isBlank (shown stretch) = true := by
      intro stretch hmem
      have hblank := List.mem_rtakeWhile_imp hmem
      exact hblank
    refine ⟨((stretches line).rtakeWhile fun stretch => isBlank (shown stretch)).map shown,
      fun c hc => ?_, ?_⟩
    · obtain ⟨stretch, hmem, rfl⟩ := List.mem_map.mp hc
      exact hblank stretch hmem
    · rw [← Utf8.flatten_eq_encode fun stretch hmem =>
          Utf8.eq_encode_of_character? ((List.rtakeWhile_suffix _ _).subset hmem)
            (character?_of_isBlank (hblank stretch hmem)),
        trimBytes, ← List.flatten_append, List.rdropWhile_append_rtakeWhile, Utf8.flatten_stretches]
  · rintro c hc ⟨front, hfront⟩
    have hstretches := stretches_trimBytes line
    rw [← hfront, Utf8.stretches_append Utf8.head?_encode, Utf8.stretches_encode] at hstretches
    have hlast := List.rdropWhile_last_not (fun stretch => isBlank (shown stretch)) (stretches line)
    rw [← hstretches] at hlast
    apply hlast (by simp)
    rwa [List.getLast_concat, Utf8.shown_encode]

/-- The lines of bytes without the white space behind each and without the empty ones at the end. -/
def comparedBytes (bytes : Bytes) : List Bytes :=
  ((byteLines bytes).map trimBytes).rdropWhile List.isEmpty

/-- The compared lines of decoded bytes are the decoded lines that are compared. -/
theorem comparedLines_decodeLossy (bytes : Bytes) :
    comparedLines (decodeLossy bytes) = (comparedBytes bytes).map decodeLossy := by
  have hlines : (lines (decodeLossy bytes)).map trimEnd =
      ((byteLines bytes).map trimBytes).map decodeLossy := by
    rw [lines_decodeLossy, List.map_map, List.map_map]
    exact List.map_congr_left fun line _ => (decodeLossy_trimBytes line).symm
  have hempty : (fun line => (decodeLossy line).isEmpty) = List.isEmpty := by
    funext line
    rw [Bool.eq_iff_iff, List.isEmpty_iff, List.isEmpty_iff, decodeLossy_eq_nil_iff]
  rw [comparedLines, hlines, rdropWhile_map, hempty, comparedBytes]

/-! ### What passes for the same -/

/-- Two stretches that look the same: they are, or both are shown as U+FFFD. -/
def Alike (stretch other : Bytes) : Prop :=
  stretch = other ∨ shown stretch = '\uFFFD' ∧ shown other = '\uFFFD'

instance : DecidableRel Alike := fun stretch other =>
  inferInstanceAs (Decidable (stretch = other ∨ shown stretch = '\uFFFD' ∧ shown other = '\uFFFD'))

/-- Two byte sequences look the same line by line, white space behind each line and empty lines at
the end left aside. -/
def LooksLike (output expected : Bytes) : Prop :=
  List.Forall₂ (fun line other => List.Forall₂ Alike (stretches line) (stretches other))
    (comparedBytes output) (comparedBytes expected)

instance : DecidableRel LooksLike := fun output expected =>
  inferInstanceAs (Decidable (List.Forall₂
    (fun line other => List.Forall₂ Alike (stretches line) (stretches other))
    (comparedBytes output) (comparedBytes expected)))

/-- The stretches that are shown as U+FFFD: ill-formed ones, and those that encode it. -/
def replaced (bytes : Bytes) : List Bytes :=
  (stretches bytes).filter fun stretch => shown stretch = '\uFFFD'

lemma shown_eq_iff {bytes more stretch other : Bytes} (hmem : stretch ∈ stretches bytes)
    (hother : other ∈ stretches more) : shown stretch = shown other ↔ Alike stretch other := by
  constructor
  · intro h
    by_cases hreplaced : shown stretch = '\uFFFD'
    · exact .inr ⟨hreplaced, h ▸ hreplaced⟩
    · have hread : ∀ s : Bytes, shown s ≠ '\uFFFD' → Utf8.character? s = some (shown s) := by
        intro s hs
        cases hc : Utf8.character? s with
        | none => simp [shown, hc] at hs
        | some c => simp [shown, hc]
      left
      rw [Utf8.eq_encode_of_character? hmem (hread stretch hreplaced),
        Utf8.eq_encode_of_character? hother (hread other (h ▸ hreplaced)), h]
  · rintro (rfl | ⟨hstretch, hother⟩)
    · rfl
    · rw [hstretch, hother]

/-- What is shown is the same exactly for stretches that look the same one by one. -/
lemma decodeLossy_eq_iff {line other : Bytes} :
    decodeLossy line = decodeLossy other ↔ List.Forall₂ Alike (stretches line) (stretches other) := by
  rw [Utf8.decodeLossy_eq_map, Utf8.decodeLossy_eq_map, ← List.forall₂_eq_eq_eq,
    List.forall₂_map_left_iff, List.forall₂_map_right_iff]
  exact forall₂_congr_of_mem fun stretch hmem other hother => shown_eq_iff hmem hother

theorem agree_iff (output expected : Bytes) :
    agree output expected = true ↔ LooksLike output expected := by
  rw [agree, beq_iff_eq, normalize_eq_iff, comparedLines_decodeLossy, comparedLines_decodeLossy,
    ← List.forall₂_eq_eq_eq, List.forall₂_map_left_iff, List.forall₂_map_right_iff]
  exact forall₂_congr_of_mem fun _ _ _ _ => decodeLossy_eq_iff

/-! ### Stretches that are shown as U+FFFD -/

lemma replaced_append_ascii {b : UInt8} (hb : b < 0x80) (front rest : Bytes) :
    replaced (front ++ b :: rest) = replaced front ++ replaced rest := by
  rw [replaced, Utf8.stretches_append_ascii hb, List.filter_append, List.filter_cons_of_neg]
  · rfl
  · simpa [Utf8.shown_ascii hb] using Utf8.ofNat_ne hb

lemma replaced_closeLine (line : Bytes) :
    replaced (closeLine 13 line.reverse) = replaced line := by
  by_cases h : line.getLast? = some 13
  · obtain ⟨front, rfl⟩ := List.getLast?_eq_some_iff.mp h
    rw [Text.closeLine_concat, replaced_append_ascii (by decide)]
    simp [replaced]
  · rw [Text.closeLine_reverse h]

lemma flatMap_replaced_byteLines (bytes : Bytes) :
    (byteLines bytes).flatMap replaced = replaced bytes := by
  induction bytes using Text.lines_induction (10 : UInt8) with
  | last bytes h =>
    by_cases hne : bytes = []
    · simp [hne, replaced]
    · rw [byteLines, Text.linesFrom_of_notMem h hne, List.flatMap_singleton]
  | line front rest h ih =>
    rw [byteLines, Text.linesFrom_append_cons h, List.flatMap_cons, replaced_closeLine,
      replaced_append_ascii (by decide), ← ih]
    rfl

lemma replaced_trimBytes (line : Bytes) : replaced (trimBytes line) = replaced line := by
  have hblank : ((stretches line).rtakeWhile fun stretch => isBlank (shown stretch)).filter
      (fun stretch => shown stretch = '\uFFFD') = [] := by
    rw [List.filter_eq_nil_iff]
    intro stretch hmem hshown
    have hstretch := List.mem_rtakeWhile_imp hmem
    rw [of_decide_eq_true hshown] at hstretch
    exact absurd hstretch (by decide)
  calc replaced (trimBytes line)
    _ = ((stretches line).rdropWhile fun stretch => isBlank (shown stretch)).filter
        (fun stretch => shown stretch = '\uFFFD') := by rw [replaced, stretches_trimBytes]
    _ = replaced line := by
      rw [← List.append_nil (List.filter _ _), ← hblank, ← List.filter_append,
        List.rdropWhile_append_rtakeWhile, replaced]

lemma flatMap_rdropWhile {α β : Type} {f : α → List β} {p : α → Bool}
    (h : ∀ a, p a = true → f a = []) (l : List α) : (l.rdropWhile p).flatMap f = l.flatMap f := by
  induction l using List.reverseRecOn with
  | nil => rfl
  | append_singleton l a ih =>
    by_cases ha : p a = true
    · rw [List.rdropWhile_concat_pos _ _ _ ha, ih, List.flatMap_append, List.flatMap_singleton, h a ha,
        List.append_nil]
    · rw [List.rdropWhile_concat_neg _ _ _ ha]

/-- Nothing that is left aside is shown as U+FFFD. -/
lemma flatMap_replaced_comparedBytes (bytes : Bytes) :
    (comparedBytes bytes).flatMap replaced = replaced bytes := by
  rw [comparedBytes, flatMap_rdropWhile, List.flatMap_map, ← flatMap_replaced_byteLines]
  · exact congrArg (List.flatMap · _) (funext replaced_trimBytes)
  · intro line hline
    rw [List.isEmpty_iff.mp hline]
    simp [replaced]

/-- Stretches that look the same are the same if those that are shown as U+FFFD are. -/
lemma eq_of_alike {front others : List Bytes} (h : List.Forall₂ Alike front others)
    (hreplaced : front.filter (fun stretch => shown stretch = '\uFFFD') =
      others.filter fun stretch => shown stretch = '\uFFFD') : front = others := by
  -- Alike stretches are in both filtered lists or in neither, and in the latter case they are equal.
  induction h with
  | nil => rfl
  | @cons stretch other front others halike _ ih =>
    rcases halike with rfl | ⟨hstretch, hother⟩
    · by_cases hshown : shown stretch = '\uFFFD'
      · rw [List.filter_cons_of_pos (by simpa using hshown),
          List.filter_cons_of_pos (by simpa using hshown)] at hreplaced
        rw [ih (List.cons.inj hreplaced).2]
      · rw [List.filter_cons_of_neg (by simpa using hshown),
          List.filter_cons_of_neg (by simpa using hshown)] at hreplaced
        rw [ih hreplaced]
    · rw [List.filter_cons_of_pos (by simpa using hstretch),
        List.filter_cons_of_pos (by simpa using hother)] at hreplaced
      obtain ⟨rfl, hrest⟩ := List.cons.inj hreplaced
      rw [ih hrest]

lemma length_filter_of_alike {front others : List Bytes} (h : List.Forall₂ Alike front others) :
    (front.filter fun stretch => shown stretch = '\uFFFD').length =
      (others.filter fun stretch => shown stretch = '\uFFFD').length := by
  refine (List.rel_filter ?_ h).length_eq
  rintro stretch other (rfl | ⟨hstretch, hother⟩)
  · rfl
  · simp [hstretch, hother]

/-- Lines that look the same are the same if the stretches are that are shown as U+FFFD. -/
lemma eq_of_forall₂_alike {front others : List Bytes}
    (h : List.Forall₂ (fun line other => List.Forall₂ Alike (stretches line) (stretches other))
      front others)
    (hreplaced : front.flatMap replaced = others.flatMap replaced) : front = others := by
  induction h with
  | nil => rfl
  | @cons line other front others halike _ ih =>
    rw [List.flatMap_cons, List.flatMap_cons] at hreplaced
    obtain ⟨hline, hrest⟩ := List.append_inj hreplaced (length_filter_of_alike halike)
    rw [ih hrest, ← Utf8.flatten_stretches line, eq_of_alike halike hline, Utf8.flatten_stretches]

/-- Bytes that look the same are compared as the same exactly if the stretches are the same that are
shown as U+FFFD. -/
theorem LooksLike.eq_iff {output expected : Bytes} (h : LooksLike output expected) :
    comparedBytes output = comparedBytes expected ↔ replaced output = replaced expected := by
  constructor
  · intro heq
    rw [← flatMap_replaced_comparedBytes, heq, flatMap_replaced_comparedBytes]
  · intro heq
    apply eq_of_forall₂_alike h
    rw [flatMap_replaced_comparedBytes, flatMap_replaced_comparedBytes, heq]

lemma looksLike_of_eq {output expected : Bytes} (h : comparedBytes output = comparedBytes expected) :
    LooksLike output expected := by
  rw [LooksLike, h]
  exact List.forall₂_same.mpr fun line _ => List.forall₂_same.mpr fun stretch _ => .inl rfl

/-! ### Verdicts -/

lemma diff_eq (output expected : Bytes) : diff output expected =
    if LooksLike output expected then .graded 100 "Output is correct"
    else .graded 0 "Output isn't correct" := by
  simp only [diff, agree_iff]

/-- Bytes are judged by their compared lines where the same stretches are shown as U+FFFD. Where
others are, the compared lines differ, and yet they pass for the same if they look it. -/
theorem diff_bytes (output expected : Bytes) :
    (replaced output = replaced expected → diff output expected =
      if comparedBytes output = comparedBytes expected then .graded 100 "Output is correct"
      else .graded 0 "Output isn't correct") ∧
    (replaced output ≠ replaced expected → comparedBytes output ≠ comparedBytes expected ∧
      diff output expected = if LooksLike output expected then .graded 100 "Output is correct"
        else .graded 0 "Output isn't correct") := by
  constructor
  · intro hreplaced
    have hlooks : LooksLike output expected ↔ comparedBytes output = comparedBytes expected :=
      ⟨fun h => h.eq_iff.mpr hreplaced, looksLike_of_eq⟩
    rw [diff_eq]
    simp only [hlooks]
  · intro hreplaced
    exact ⟨fun h => hreplaced ((looksLike_of_eq h).eq_iff.mp h), diff_eq output expected⟩

/-- A byte that is no text with white space behind it, and in front of a digit. -/
theorem diff_bytes_illFormed :
    Utf8.decode? [0xFF] = none ∧
      replaced [0xFF, 0x20, 0x0A] = replaced [0xFF] ∧
      diff [0xFF, 0x20, 0x0A] [0xFF] = .graded 100 "Output is correct" ∧
      replaced [0xFF, 0x31] ≠ replaced [0x31] ∧
      diff [0xFF, 0x31] [0x31] = .graded 0 "Output isn't correct" := by
  have hsame : replaced [0xFF, 0x20, 0x0A] = replaced [0xFF] := by decide +kernel
  have hother : replaced [0xFF, 0x31] ≠ replaced [0x31] := by decide +kernel
  refine ⟨by decide +kernel, hsame, ?_, hother, ?_⟩
  · rw [(diff_bytes [0xFF, 0x20, 0x0A] [0xFF]).1 hsame, if_pos (by decide +kernel)]
  · rw [((diff_bytes [0xFF, 0x31] [0x31]).2 hother).2, if_neg (by decide +kernel)]

/-- Two bytes that are no text pass for the same. -/
theorem diff_two_bytes :
    Utf8.decode? [0xFF] = none ∧ Utf8.decode? [0xFE] = none ∧
      comparedBytes [0xFF] ≠ comparedBytes [0xFE] ∧
      diff [0xFF] [0xFE] = .graded 100 "Output is correct" := by
  refine ⟨?_, ?_, ?_, ?_⟩ <;> decide +kernel

end Judge.Checker
