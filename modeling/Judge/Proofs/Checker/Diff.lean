import Judge.Checker.Diff
import Judge.Proofs.Text.Blank
import Judge.Proofs.Text.Lines

/-!
Comparing texts. Two texts agree exactly when their lines do, white space behind each line and empty
lines at the end left aside; nothing else that is inserted goes unnoticed.
-/

namespace Judge.Checker

open Text (lines linesFrom closeLine splitAt join trimEnd isBlank)
open Utf8 (encode)

/-- The lines of a text without the white space behind each and without the empty ones at the end. -/
def comparedLines (text : List Char) : List (List Char) :=
  ((lines text).map trimEnd).rdropWhile List.isEmpty

variable {text : List Char}

/-- Trimmed pieces lose only the empty ones at the end when what they are joined to is trimmed. -/
lemma trimEnd_join {pieces : List (List Char)} (h : ∀ piece ∈ pieces, trimEnd piece = piece) :
    trimEnd (join ['\n'] pieces) = join ['\n'] (pieces.rdropWhile List.isEmpty) := by
  induction pieces using List.reverseRecOn with
  | nil => rfl
  | append_singleton pieces piece ih =>
    have hpieces : ∀ other ∈ pieces, trimEnd other = other := fun other hother =>
      h other (List.mem_append_left _ hother)
    by_cases hpiece : piece = []
    · subst hpiece
      rw [List.rdropWhile_concat_pos _ _ _ (by simp), ← ih hpieces]
      by_cases hnil : pieces = []
      · simp [hnil, join]
      · rw [Text.join_concat hnil, List.append_nil, Text.trimEnd_concat_blank (by decide)]
    · have htrim : trimEnd piece = piece := h piece (by simp)
      rw [List.rdropWhile_concat_neg _ _ _ (by simpa using hpiece)]
      by_cases hnil : pieces = []
      · simpa [hnil, join] using htrim
      · rw [Text.join_concat hnil, Text.trimEnd_append (by rwa [htrim]), htrim]

lemma normalize_eq_join (text : List Char) : normalize text = join ['\n'] (comparedLines text) := by
  rw [normalize, comparedLines]
  refine trimEnd_join fun piece hpiece => ?_
  obtain ⟨line, -, rfl⟩ := List.mem_map.mp hpiece
  exact Text.trimEnd_trimEnd line

lemma notMem_of_mem_comparedLines {line : List Char} (h : line ∈ comparedLines text) :
    '\n' ∉ line := by
  obtain ⟨whole, hwhole, rfl⟩ := List.mem_map.mp ((List.rdropWhile_prefix _ _).subset h)
  intro hmem
  exact Text.notMem_of_mem_linesFrom (by simp) hwhole ((Text.trimEnd_prefix whole).subset hmem)

lemma comparedLines_ne (text : List Char) : comparedLines text ≠ [[]] := by
  intro h
  have hlast := List.rdropWhile_last_not List.isEmpty ((lines text).map trimEnd)
  rw [← comparedLines, h] at hlast
  exact hlast (by simp) rfl

/-- Texts are the same when they are compared exactly if their compared lines are. -/
theorem normalize_eq_iff {other : List Char} :
    normalize text = normalize other ↔ comparedLines text = comparedLines other := by
  rw [normalize_eq_join, normalize_eq_join]
  constructor
  · exact Text.join_inj (fun _ => notMem_of_mem_comparedLines)
      (fun _ => notMem_of_mem_comparedLines) (comparedLines_ne text) (comparedLines_ne other)
  · exact fun h => congrArg _ h

/-! ### What counts -/

lemma trimEnd_closeLine (line : List Char) : trimEnd (closeLine '\r' line) = trimEnd line.reverse := by
  cases line with
  | nil => rfl
  | cons c line =>
    rw [closeLine]
    split
    · next hc =>
      rw [List.reverse_cons, eq_of_beq hc, Text.trimEnd_concat_blank (by decide)]
    · rfl

/-- Trimmed lines are the trimmed pieces between line feeds, but for an empty one at the end. -/
lemma map_splitAt {line : List Char} (hline : '\n' ∉ line) (text : List Char) :
    ∃ ending, (ending = [] ∨ ending = [[]]) ∧ (splitAt '\n' (line.reverse ++ text)).map trimEnd =
      (linesFrom '\n' '\r' line text).map trimEnd ++ ending := by
  induction text generalizing line with
  | nil =>
    rw [List.append_nil, Text.splitAt_of_notMem (by simpa using hline)]
    cases line with
    | nil => exact ⟨[[]], .inr rfl, rfl⟩
    | cons c line => exact ⟨[], .inl rfl, by rw [Text.linesFrom_nil (by simp), List.append_nil]⟩
  | cons c text ih =>
    by_cases hc : c = '\n'
    · subst hc
      obtain ⟨ending, hending, heq⟩ := ih (show '\n' ∉ [] by simp)
      refine ⟨ending, hending, ?_⟩
      rw [Text.splitAt_append (by simpa using hline), linesFrom, if_pos (by simp), List.map_cons,
        List.map_cons, trimEnd_closeLine, List.cons_append, ← heq]
      rfl
    · obtain ⟨ending, hending, heq⟩ := ih (show '\n' ∉ c :: line by simp [hline, Ne.symm hc])
      refine ⟨ending, hending, ?_⟩
      rw [linesFrom, if_neg (by simpa using hc), ← heq]
      simp

lemma comparedLines_eq (text : List Char) :
    comparedLines text = ((splitAt '\n' text).map trimEnd).rdropWhile List.isEmpty := by
  obtain ⟨ending, hending, heq⟩ := map_splitAt (show '\n' ∉ [] by simp) text
  have hsplit : (splitAt '\n' text).map trimEnd = (lines text).map trimEnd ++ ending := heq
  rw [comparedLines, hsplit]
  rcases hending with rfl | rfl
  · rw [List.append_nil]
  · rw [List.rdropWhile_concat_pos _ _ _ (by simp)]

/-- What stands in front of a line that is not empty is not left aside. -/
lemma rdropWhile_append_cons {α : Type} {p : α → Bool} {line : α} (h : p line = false)
    (before after : List α) :
    (before ++ line :: after).rdropWhile p = before ++ line :: after.rdropWhile p := by
  induction after using List.reverseRecOn with
  | nil => exact List.rdropWhile_concat_neg p before line (by simp [h])
  | append_singleton after last ih =>
    rw [← List.cons_append, ← List.append_assoc]
    by_cases hlast : p last = true
    · rw [List.rdropWhile_concat_pos _ _ _ hlast, List.rdropWhile_concat_pos _ _ _ hlast, ih]
    · rw [List.rdropWhile_concat_neg _ _ _ hlast, List.rdropWhile_concat_neg _ _ _ hlast]
      simp

lemma trimEnd_ne_nil {c : Char} (hc : isBlank c = false) (h : c ∈ text) : trimEnd text ≠ [] := by
  intro hnil
  rw [Text.trimEnd_eq_nil_iff.mp hnil c h] at hc
  contradiction

section Insert

variable {front word inserted gap rest last first : List Char} {before after : List (List Char)}
  {c : Char}

lemma exists_splitAt_last (text : List Char) :
    ∃ before last, splitAt '\n' text = before ++ [last] :=
  (List.eq_nil_or_concat' _).resolve_left (Text.splitAt_ne_nil _ _)

lemma exists_splitAt_first (text : List Char) :
    ∃ first after, splitAt '\n' text = first :: after :=
  List.exists_cons_of_ne_nil (Text.splitAt_ne_nil _ _)

/-- The line of a word that is not blank is compared, and so is every line in front of it. -/
lemma comparedLines_append (hfront : splitAt '\n' front = before ++ [last]) (hword : '\n' ∉ word)
    (hc : isBlank c = false) (hmem : c ∈ word) (hrest : splitAt '\n' rest = first :: after) :
    comparedLines (front ++ (word ++ rest)) = before.map trimEnd ++
      trimEnd (last ++ (word ++ first)) :: (after.map trimEnd).rdropWhile List.isEmpty := by
  have hline : trimEnd (last ++ (word ++ first)) ≠ [] := trimEnd_ne_nil hc (by simp [hmem])
  rw [comparedLines_eq, Text.splitAt_append_append hfront hword hrest, List.map_append,
    List.map_cons]
  exact rdropWhile_append_cons (by simpa using hline) _ _

/-- In front of something that is not blank each line feed counts. -/
lemma count_eq_of_comparedLines {other : List Char} (hc : isBlank c = false)
    (h : comparedLines (text ++ c :: rest) = comparedLines (other ++ c :: rest)) :
    text.count '\n' = other.count '\n' := by
  have hnewline : '\n' ∉ [c] := by
    rw [List.mem_singleton]
    rintro rfl
    exact absurd hc (by decide)
  obtain ⟨first, after, hrest⟩ := exists_splitAt_first rest
  -- From the mark on both have the same lines, so only what stands in front of it is counted.
  have hlength : ∀ front : List Char, (comparedLines (front ++ c :: rest)).length =
      front.count '\n' + 1 + ((after.map trimEnd).rdropWhile List.isEmpty).length := by
    intro front
    obtain ⟨before, last, hfront⟩ := exists_splitAt_last front
    have hcount := Text.length_splitAt '\n' front
    have hlines := comparedLines_append hfront hnewline hc (by simp) hrest
    rw [hfront, List.length_append, List.length_singleton] at hcount
    rw [List.singleton_append] at hlines
    rw [hlines, List.length_append, List.length_map, List.length_cons]
    omega
  have hsame := congrArg List.length h
  rw [hlength, hlength] at hsame
  omega

/-- In front of something in its line that is not blank everything else counts. -/
lemma eq_nil_of_comparedLines (hinserted : '\n' ∉ inserted) (hword : '\n' ∉ word)
    (hc : isBlank c = false) (hmem : c ∈ word)
    (h : comparedLines (front ++ (inserted ++ word ++ rest)) =
      comparedLines (front ++ (word ++ rest))) : inserted = [] := by
  obtain ⟨before, last, hfront⟩ := exists_splitAt_last front
  obtain ⟨first, after, hrest⟩ := exists_splitAt_first rest
  have hvisible : trimEnd (word ++ first) ≠ [] := trimEnd_ne_nil hc (by simp [hmem])
  rw [comparedLines_append hfront (by simp [hinserted, hword]) hc (by simp [hmem]) hrest,
    comparedLines_append hfront hword hc hmem hrest] at h
  have hline := (List.cons.inj (List.append_cancel_left h)).1
  rw [List.append_assoc, ← List.append_assoc last, Text.trimEnd_append hvisible,
    Text.trimEnd_append hvisible] at hline
  have hlength := congrArg List.length hline
  simp only [List.length_append] at hlength
  exact List.length_eq_zero_iff.mp (by omega)

/-- Whatever is inserted counts if something that is not blank follows it in the same line, and if
it holds a line feed, anywhere behind it. -/
theorem comparedLines_insert_ne (hne : inserted ≠ []) (hc : isBlank c = false)
    (h : '\n' ∈ inserted ∨ '\n' ∉ gap) (front rest : List Char) :
    comparedLines (front ++ inserted ++ gap ++ c :: rest) ≠
      comparedLines (front ++ gap ++ c :: rest) := by
  intro heq
  by_cases hbreak : '\n' ∈ inserted
  · have hsame := count_eq_of_comparedLines hc heq
    have hcount : 0 < inserted.count '\n' := List.count_pos_iff.mpr hbreak
    simp only [List.count_append] at hsame
    omega
  · have hword : '\n' ∉ gap ++ [c] := by
      simp only [List.mem_append, List.mem_singleton, not_or]
      refine ⟨h.resolve_left hbreak, ?_⟩
      rintro rfl
      exact absurd hc (by decide)
    have hline : comparedLines (front ++ (inserted ++ (gap ++ [c]) ++ rest)) =
        comparedLines (front ++ (gap ++ [c] ++ rest)) := by
      simpa only [List.append_assoc, List.singleton_append] using heq
    exact hne (eq_nil_of_comparedLines hbreak hword hc (by simp) hline)

end Insert

/-! ### Verdicts -/

lemma decodeLossy_encode (text : List Char) : Utf8.decodeLossy (encode text) = text := by
  rw [Utf8.decodeLossy, Utf8.decode_encode, List.map_map]
  exact List.map_id text

/-- Texts are judged by their compared lines: white space behind a line and empty lines at the end
do not count. Everything else does: what is inserted in front of something in its line that is not
blank, and lines that are inserted in front of something that is not blank. -/
theorem diff_encode :
    (∀ output expected : List Char, diff (encode output) (encode expected) =
      if comparedLines output = comparedLines expected then .graded 100 "Output is correct"
      else .graded 0 "Output isn't correct") ∧
    ∀ (front inserted gap rest : List Char) (c : Char), inserted ≠ [] → isBlank c = false →
      ('\n' ∈ inserted ∨ '\n' ∉ gap) →
        (diff (encode (front ++ inserted ++ gap ++ c :: rest))
          (encode (front ++ gap ++ c :: rest))).score? = some 0 ∧
        (diff (encode (front ++ gap ++ c :: rest))
          (encode (front ++ inserted ++ gap ++ c :: rest))).score? = some 0 := by
  have hverdict : ∀ output expected : List Char, diff (encode output) (encode expected) =
      if comparedLines output = comparedLines expected then .graded 100 "Output is correct"
      else .graded 0 "Output isn't correct" := by
    intro output expected
    simp only [diff, agree, decodeLossy_encode, beq_iff_eq, normalize_eq_iff]
  refine ⟨hverdict, fun front inserted gap rest c hne hc h => ?_⟩
  have hdiffer := comparedLines_insert_ne hne hc h front rest
  rw [hverdict, hverdict, if_neg hdiffer, if_neg (Ne.symm hdiffer)]
  exact ⟨rfl, rfl⟩

/-- A blank more in front of a line that is indented already. -/
theorem diff_encode_indented :
    [' '] ≠ [] ∧ isBlank '1' = false ∧ '\n' ∉ ['\t'] ∧
      (diff (encode ['a', '\n', ' ', '\t', '1', '\n'])
        (encode ['a', '\n', '\t', '1', '\n'])).score? = some 0 :=
  ⟨by decide, by decide, by decide,
    (diff_encode.2 ['a', '\n'] [' '] ['\t'] ['\n'] '1' (by decide) (by decide)
      (.inr (by decide))).1⟩

example : comparedLines "1  2 \t\r\n\n 3\u00A0\r\n \n\r".toList =
    ["1  2".toList, [], " 3".toList] := by decide

end Judge.Checker
