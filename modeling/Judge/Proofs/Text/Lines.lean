import Mathlib.Data.List.Basic
import Judge.Text.Lines
import Judge.Proofs.Text.Utf8

/-!
Lines and separators the other way round: what was put together from pieces falls apart into the
same pieces, and the lines of encoded text are the encoded lines.
-/

namespace Judge.Text

section Generic

variable {α : Type} [BEq α] [LawfulBEq α] {lf cr separator : α}

omit [LawfulBEq α] in
theorem linesFrom_nil {line : List α} (h : line ≠ []) : linesFrom lf cr line [] = [line.reverse] := by
  rw [linesFrom, if_neg (by simpa using h)]

/-- What has no line feed belongs to the line being read. -/
theorem linesFrom_append {piece : List α} (h : lf ∉ piece) (line rest : List α) :
    linesFrom lf cr line (piece ++ rest) = linesFrom lf cr (piece.reverse ++ line) rest := by
  induction piece generalizing line with
  | nil => rfl
  | cons c piece ih =>
    obtain ⟨hc, hpiece⟩ : lf ≠ c ∧ lf ∉ piece := by simpa using h
    rw [List.cons_append, linesFrom, if_neg (by simpa using Ne.symm hc), ih hpiece]
    simp

/-- What a line feed ends is a line. -/
lemma linesFrom_append_cons {front : List α} (h : lf ∉ front) (rest : List α) :
    linesFrom lf cr [] (front ++ lf :: rest) =
      closeLine cr front.reverse :: linesFrom lf cr [] rest := by
  rw [linesFrom_append h, linesFrom, if_pos (by simp), List.append_nil]

lemma linesFrom_of_notMem {text : List α} (h : lf ∉ text) (hne : text ≠ []) :
    linesFrom lf cr [] text = [text] := by
  have hread : linesFrom lf cr [] (text ++ []) = linesFrom lf cr (text.reverse ++ []) [] :=
    linesFrom_append h [] []
  rw [List.append_nil, List.append_nil] at hread
  rw [hread, linesFrom_nil (by simpa using hne), List.reverse_reverse]

/-- A text is a line, or a line that a line feed ends and another text. -/
lemma lines_induction (lf : α) {P : List α → Prop} (last : ∀ text, lf ∉ text → P text)
    (line : ∀ front rest, lf ∉ front → P rest → P (front ++ lf :: rest)) (text : List α) : P text := by
  induction hlength : text.length using Nat.strongRecOn generalizing text with
  | ind n ih =>
    by_cases h : lf ∈ text
    · obtain ⟨front, rest, rfl, hfront⟩ := List.eq_append_cons_of_mem h
      refine line front rest hfront (ih rest.length ?_ rest rfl)
      simp only [List.length_append, List.length_cons] at hlength
      omega
    · exact last text h

/-- A line holds no line feed. -/
lemma notMem_of_mem_linesFrom {line text piece : List α}
    (hline : lf ∉ line) (h : piece ∈ linesFrom lf cr line text) : lf ∉ piece := by
  induction text generalizing line with
  | nil =>
    simp only [linesFrom] at h
    split at h
    · simp at h
    · obtain rfl := List.mem_singleton.mp h
      simpa using hline
  | cons c text ih =>
    simp only [linesFrom] at h
    split at h
    · rcases List.mem_cons.mp h with rfl | h
      · cases line with
        | nil => simp [closeLine]
        | cons d line =>
          simp only [closeLine]
          split
          · simpa using fun hmem => hline (List.mem_cons_of_mem _ hmem)
          · rwa [List.mem_reverse]
      · exact ih (by simp) h
    · next hne =>
      refine ih ?_ h
      simp only [List.mem_cons, not_or]
      exact ⟨fun heq => hne (by simp [heq]), hline⟩

lemma closeLine_concat (cr : α) (line : List α) : closeLine cr (line ++ [cr]).reverse = line := by
  simp [closeLine]

theorem closeLine_reverse {line : List α} (h : cr ∉ line.getLast?) :
    closeLine cr line.reverse = line := by
  rcases List.eq_nil_or_concat line with rfl | ⟨front, c, rfl⟩
  · rfl
  · have hc : c ≠ cr := by simpa [eq_comm] using h
    simp [closeLine, hc]

/-- Pieces that were each ended by a line feed are the lines. -/
theorem linesFrom_flatMap {pieces : List (List α)} (hlf : ∀ piece ∈ pieces, lf ∉ piece)
    (hcr : ∀ piece ∈ pieces, cr ∉ piece.getLast?) :
    linesFrom lf cr [] (pieces.flatMap fun piece => piece ++ [lf]) = pieces := by
  induction pieces with
  | nil => rfl
  | cons piece pieces ih =>
    rw [List.flatMap_cons, List.append_assoc, linesFrom_append (hlf piece (by simp)),
      List.singleton_append, linesFrom, if_pos (by simp), List.append_nil,
      closeLine_reverse (hcr piece (by simp)),
      ih (fun p hp => hlf p (by simp [hp])) (fun p hp => hcr p (by simp [hp]))]

theorem splitAt_of_notMem {piece : List α} (h : separator ∉ piece) :
    splitAt separator piece = [piece] := by
  induction piece with
  | nil => rfl
  | cons c piece ih =>
    obtain ⟨hc, hpiece⟩ : separator ≠ c ∧ separator ∉ piece := by simpa using h
    rw [splitAt, if_neg (by simpa using Ne.symm hc), ih hpiece]

/-- A text is split at a separator into the pieces before it and those behind it. -/
theorem splitAt_append_cons (before after : List α) :
    splitAt separator (before ++ separator :: after) =
      splitAt separator before ++ splitAt separator after := by
  induction before with
  | nil => simp [splitAt]
  | cons c before ih =>
    rw [List.cons_append, splitAt, splitAt, ih]
    split
    · rfl
    · cases hs : splitAt separator before with
      | nil => exact absurd hs (splitAt_ne_nil _ _)
      | cons piece pieces => rfl

theorem splitAt_append {piece : List α} (h : separator ∉ piece) (rest : List α) :
    splitAt separator (piece ++ separator :: rest) = piece :: splitAt separator rest := by
  rw [splitAt_append_cons, splitAt_of_notMem h, List.singleton_append]

/-- Joined pieces that do not hold the separator are split again, if there are any. -/
theorem splitAt_join {pieces : List (List α)} (hne : pieces ≠ [])
    (h : ∀ piece ∈ pieces, separator ∉ piece) :
    splitAt separator (join [separator] pieces) = pieces := by
  induction pieces with
  | nil => contradiction
  | cons piece pieces ih =>
    cases pieces with
    | nil => exact splitAt_of_notMem (h piece (by simp))
    | cons next pieces =>
      rw [join, List.append_assoc, List.singleton_append, splitAt_append (h piece (by simp)),
        ih (by simp) fun p hp => h p (by simp [hp])]
      simp

/-- Joined pieces that do not hold the separator tell the pieces, but for the difference between no
piece and one empty piece. -/
lemma join_inj {pieces others : List (List α)} (h : ∀ piece ∈ pieces, separator ∉ piece)
    (hothers : ∀ piece ∈ others, separator ∉ piece) (hne : pieces ≠ [[]]) (hne' : others ≠ [[]])
    (hjoin : join [separator] pieces = join [separator] others) : pieces = others := by
  by_cases hnil : pieces = []
  · by_contra hother
    have hsplit := splitAt_join (Ne.symm (hnil ▸ hother)) hothers
    rw [← hjoin, hnil] at hsplit
    exact hne' hsplit.symm
  · have hsplit := splitAt_join hnil h
    by_cases hnil' : others = []
    · rw [hjoin, hnil'] at hsplit
      exact absurd hsplit.symm hne
    · rw [← hsplit, hjoin, splitAt_join hnil' hothers]

omit [LawfulBEq α] in
/-- Two texts that follow each other share the piece between them. -/
lemma splitAt_append_of_eq {front rest : List α} {before after : List (List α)} {last first : List α}
    (hfront : splitAt separator front = before ++ [last])
    (hrest : splitAt separator rest = first :: after) :
    splitAt separator (front ++ rest) = before ++ (last ++ first) :: after := by
  induction front generalizing before last with
  | nil =>
    have hnil : before = [] ∧ last = [] := by
      cases before with
      | nil => simpa [splitAt, eq_comm] using hfront
      | cons piece before => simp [splitAt] at hfront
    simp [hrest, hnil]
  | cons c front ih =>
    cases hs : splitAt separator front with
    | nil => exact absurd hs (splitAt_ne_nil _ _)
    | cons piece pieces =>
      rw [splitAt, hs] at hfront
      rw [List.cons_append, splitAt]
      by_cases hc : (c == separator) = true
      · rw [if_pos hc] at hfront ⊢
        cases before with
        | nil => simp at hfront
        | cons head before =>
          obtain ⟨rfl, htail⟩ := List.cons.inj hfront
          rw [ih (hs.trans htail)]
          rfl
      · rw [if_neg hc] at hfront ⊢
        cases before with
        | nil =>
          obtain ⟨rfl, rfl⟩ := List.cons.inj hfront
          rw [ih (show splitAt separator front = [] ++ [piece] from hs)]
          rfl
        | cons head before =>
          obtain ⟨rfl, htail⟩ := List.cons.inj hfront
          rw [ih (show splitAt separator front = (piece :: before) ++ [last] by rw [hs, htail]; rfl)]
          rfl

/-- What is put between two texts stands in one piece if it does not hold the separator. -/
lemma splitAt_append_append {front rest middle : List α} {before after : List (List α)}
    {last first : List α} (hfront : splitAt separator front = before ++ [last])
    (hmiddle : separator ∉ middle) (hrest : splitAt separator rest = first :: after) :
    splitAt separator (front ++ (middle ++ rest)) = before ++ (last ++ (middle ++ first)) :: after :=
  have hsplit : splitAt separator middle = [] ++ [middle] := splitAt_of_notMem hmiddle
  splitAt_append_of_eq hfront (splitAt_append_of_eq hsplit hrest)

omit [LawfulBEq α] in
lemma length_splitAt (separator : α) (text : List α) :
    (splitAt separator text).length = text.count separator + 1 := by
  induction text with
  | nil => rfl
  | cons c text ih =>
    rw [splitAt]
    by_cases hc : (c == separator) = true
    · rw [if_pos hc, List.length_cons, ih, List.count_cons, if_pos hc]
    · cases hs : splitAt separator text with
      | nil => exact absurd hs (splitAt_ne_nil _ _)
      | cons piece pieces =>
        rw [hs] at ih
        rw [if_neg hc, List.count_cons, if_neg hc]
        exact ih

theorem cut_append {before : List α} (h : separator ∉ before) (after : List α) :
    cut separator (before ++ separator :: after) = some (before, after) := by
  induction before with
  | nil => simp [cut]
  | cons c before ih =>
    obtain ⟨hc, hbefore⟩ : separator ≠ c ∧ separator ∉ before := by simpa using h
    rw [List.cons_append, cut, if_neg (by simpa using Ne.symm hc), ih hbefore]
    rfl

/-- The last separator is the one that nothing separates from the end. -/
theorem cutLast_append {after : List α} (h : separator ∉ after) (before : List α) :
    cutLast separator (before ++ separator :: after) = some (before, after) := by
  have hcut : cut separator (before ++ separator :: after).reverse =
      some (after.reverse, before.reverse) := by
    rw [List.reverse_append, List.reverse_cons, List.append_assoc, List.singleton_append]
    exact cut_append (by simpa using h) _
  rw [cutLast, hcut]
  simp

omit [BEq α] [LawfulBEq α] in
lemma join_concat {pieces : List (List α)} (hne : pieces ≠ []) (separator piece : List α) :
    join separator (pieces ++ [piece]) = join separator pieces ++ separator ++ piece := by
  induction pieces with
  | nil => contradiction
  | cons first pieces ih =>
    cases pieces with
    | nil => rfl
    | cons next pieces =>
      change first ++ separator ++ join separator (next :: pieces ++ [piece]) =
        first ++ separator ++ join separator (next :: pieces) ++ separator ++ piece
      rw [ih (by simp)]
      simp only [List.append_assoc]

omit [BEq α] [LawfulBEq α] in
theorem mem_join {separator : List α} {pieces : List (List α)} {c : α}
    (h : c ∈ join separator pieces) : c ∈ separator ∨ ∃ piece ∈ pieces, c ∈ piece := by
  induction pieces with
  | nil => simp [join] at h
  | cons piece pieces ih =>
    cases pieces with
    | nil => exact .inr ⟨piece, by simp, h⟩
    | cons next pieces =>
      rw [join, List.mem_append, List.mem_append] at h
      rcases h with (h | h) | h
      · exact .inr ⟨piece, by simp, h⟩
      · exact .inl h
      · rcases ih h with h | ⟨p, hp, h⟩
        · exact .inl h
        · exact .inr ⟨p, by simp [hp], h⟩
      · simp

omit [BEq α] [LawfulBEq α] in
/-- Pieces that start and end with one character are joined to such a text. -/
theorem join_ends {separator : List α} {pieces : List (List α)} {c : α} (hne : pieces ≠ [])
    (h : ∀ piece ∈ pieces, piece.head? = some c ∧ piece.getLast? = some c) :
    (join separator pieces).head? = some c ∧ (join separator pieces).getLast? = some c := by
  induction pieces with
  | nil => contradiction
  | cons piece pieces ih =>
    cases pieces with
    | nil => exact h piece (by simp)
    | cons next pieces =>
      obtain ⟨-, hlast⟩ := ih (by simp) fun p hp => h p (by simp [hp])
      rw [join, List.append_assoc, List.head?_append, List.getLast?_append, List.getLast?_append,
        (h piece (by simp)).1, hlast]
      · exact ⟨rfl, rfl⟩
      · simp

end Generic

/-- Lines that were each ended by a line feed are read back. -/
theorem lines_flatMap {pieces : List (List Char)} (hlf : ∀ piece ∈ pieces, '\n' ∉ piece)
    (hcr : ∀ piece ∈ pieces, '\r' ∉ piece.getLast?) :
    lines (pieces.flatMap fun piece => piece ++ ['\n']) = pieces := linesFrom_flatMap hlf hcr

section Encoded

open Utf8 (encode toNat_ofNat ofNat_lt_iff)

/-- A byte below 128 is the whole encoding of a character. -/
lemma eq_of_mem_encodeChar {c : Char} {b : UInt8} (hb : b ∈ String.utf8EncodeChar c)
    (hlt : b < 0x80) : String.utf8EncodeChar c = [b] ∧ c = Char.ofNat b.toNat := by
  have hc : Char.ofNat c.val.toNat = c := Char.ofNat_toNat c
  have hlarge : ∀ n, 128 ≤ n → n < 256 → b ≠ UInt8.ofNat n := by
    rintro n hn hn' rfl
    have : n < 128 := (ofNat_lt_iff hn').mp hlt
    omega
  rw [String.utf8EncodeChar] at hb ⊢
  generalize c.val.toNat = v at hb hc ⊢
  split at hb
  · next hone =>
    obtain rfl := List.mem_singleton.mp hb
    rw [if_pos hone, toNat_ofNat (by omega), hc]
    exact ⟨rfl, rfl⟩
  split at hb
  · simp only [List.mem_cons, List.not_mem_nil, or_false] at hb
    rcases hb with hb | hb <;> exact absurd hb (hlarge _ (by omega) (by omega))
  split at hb
  · simp only [List.mem_cons, List.not_mem_nil, or_false] at hb
    rcases hb with hb | hb | hb <;> exact absurd hb (hlarge _ (by omega) (by omega))
  · simp only [List.mem_cons, List.not_mem_nil, or_false] at hb
    rcases hb with hb | hb | hb | hb <;> exact absurd hb (hlarge _ (by omega) (by omega))

lemma closeLine_encode (line : List Char) :
    closeLine 13 (encode line.reverse).reverse = encode (closeLine '\r' line) := by
  cases line with
  | nil => rfl
  | cons d line =>
    have hsplit : (encode (d :: line).reverse).reverse =
        (String.utf8EncodeChar d).reverse ++ (encode line.reverse).reverse := by
      simp [encode, List.flatMap_append]
    by_cases hd : d = '\r'
    · subst hd
      rw [hsplit]
      have hbyte : String.utf8EncodeChar '\r' = [13] := by decide
      simp [hbyte, closeLine]
    · obtain ⟨front, b, hfront⟩ :=
        (List.eq_nil_or_concat (String.utf8EncodeChar d)).resolve_left String.utf8EncodeChar_ne_nil
      have hb : b ≠ 13 := by
        rintro rfl
        have := (eq_of_mem_encodeChar (c := d) (b := 13) (by simp [hfront]) (by decide)).2
        exact hd this
      rw [hsplit, hfront]
      simp only [closeLine, List.concat_eq_append, List.reverse_append, List.reverse_cons,
        List.reverse_nil, List.nil_append, List.cons_append, beq_iff_eq, if_neg hb, if_neg hd]
      simp [encode, List.flatMap_append, hfront]

/-- The lines of encoded text are the encoded lines. -/
theorem byteLines_encode (text : List Char) :
    byteLines (encode text) = (lines text).map encode := by
  -- The line being read is kept backwards, by characters on one side and by bytes on the other.
  have hfrom : ∀ (text line : List Char), linesFrom 10 13 (encode line.reverse).reverse (encode text) =
      (linesFrom '\n' '\r' line text).map encode := by
    intro text
    induction text with
    | nil =>
      intro line
      cases line with
      | nil => rfl
      | cons c line =>
        have hne : encode (line.reverse ++ [c]) ≠ [] := by
          simp [encode, String.utf8EncodeChar_ne_nil]
        rw [List.reverse_cons, linesFrom_nil (by simp), Utf8.encode_nil,
          linesFrom_nil (by rwa [Ne, List.reverse_eq_nil_iff])]
        simp
    | cons c text ih =>
      intro line
      have hencode : encode (c :: text) = String.utf8EncodeChar c ++ encode text := by
        simp [encode]
      by_cases hc : c = '\n'
      · subst hc
        have hbyte : String.utf8EncodeChar '\n' = [10] := by decide
        rw [hencode, hbyte, List.singleton_append, linesFrom, linesFrom, if_pos (by decide),
          if_pos (by decide), List.map_cons, closeLine_encode]
        exact congrArg _ (ih [])
      · have hlf : (10 : UInt8) ∉ String.utf8EncodeChar c := by
          intro hmem
          exact hc (eq_of_mem_encodeChar hmem (by decide)).2
        rw [hencode, linesFrom_append hlf, linesFrom, if_neg (by simpa using hc), ← ih (c :: line)]
        simp [encode, List.flatMap_append]
  exact hfrom text []

end Encoded

end Judge.Text
