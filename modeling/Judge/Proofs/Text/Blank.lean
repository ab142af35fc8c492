import Mathlib.Data.List.DropRight
import Mathlib.Tactic.Lemma
import Judge.Text.Blank

/-!
Trimmed texts: they have no blank at their ends, trimming leaves them alone, and trimming gives
them. Words without blanks are read back when a blank stands between them, and a text is cut at its
first blank.
-/

namespace Judge.Text

variable {text : List Char}

/-- A text without blanks at its ends is left alone. -/
theorem trim_eq_self (hfirst : ∀ c ∈ text.head?, isBlank c = false)
    (hlast : ∀ c ∈ text.getLast?, isBlank c = false) : trim text = text := by
  rw [trim, trimStart_of_head hfirst, trimEnd_of_last hlast]

theorem trim_of_noBlank (h : ∀ c ∈ text, isBlank c = false) : trim text = text :=
  trim_eq_self (fun c hc => h c (List.mem_of_mem_head? hc)) fun c hc =>
    h c (List.mem_of_mem_getLast? hc)

theorem trimEnd_prefix (text : List Char) : trimEnd text <+: text := by
  rw [trimEnd, ← List.reverse_suffix, List.reverse_reverse]
  exact List.dropWhile_suffix _

theorem head?_trim {c : Char} (h : c ∈ (trim text).head?) : isBlank c = false := by
  obtain ⟨rest, hrest⟩ := trimEnd_prefix (trimStart text)
  have hne : trimEnd (trimStart text) ≠ [] := by
    intro hnil
    simp [trim, hnil] at h
  have h : c ∈ (trimEnd (trimStart text)).head? := h
  refine @head?_trimStart text c ?_
  rw [← hrest, List.head?_append_of_ne_nil _ hne]
  exact h

lemma getLast?_trimEnd {c : Char} (h : c ∈ (trimEnd text).getLast?) : isBlank c = false := by
  rw [trimEnd, List.getLast?_reverse] at h
  exact head?_trimStart h

theorem getLast?_trim {c : Char} (h : c ∈ (trim text).getLast?) : isBlank c = false :=
  getLast?_trimEnd h

theorem trim_trim (text : List Char) : trim (trim text) = trim text :=
  trim_eq_self (fun _ => head?_trim) fun _ => getLast?_trim

lemma wordsFrom_append {word : List Char} (h : ∀ c ∈ word, isBlank c = false)
    (started rest : List Char) : wordsFrom started (word ++ rest) =
      wordsFrom (word.reverse ++ started) rest := by
  induction word generalizing started with
  | nil => rfl
  | cons c word ih =>
    rw [List.cons_append, wordsFrom, if_neg (by simp [h c (by simp)]),
      ih fun d hd => h d (by simp [hd])]
    simp

/-- Two words with a space between them are read back. -/
theorem words_pair {a b : List Char} (ha : ∀ c ∈ a, isBlank c = false)
    (hb : ∀ c ∈ b, isBlank c = false) (hane : a ≠ []) (hbne : b ≠ []) :
    words (a ++ ' ' :: b) = [a, b] := by
  have hend : wordsFrom [] b = [b] := by
    have := wordsFrom_append hb [] []
    simpa [wordsFrom, hbne] using this
  rw [words, wordsFrom_append ha, wordsFrom, if_pos (by decide), if_neg (by simpa using hane), hend]
  simp

/-! ### In front of a text -/

/-- What is trimmed in front are the blanks there. -/
lemma exists_eq_append_trimStart (text : List Char) :
    ∃ blanks, (∀ c ∈ blanks, isBlank c = true) ∧ text = blanks ++ trimStart text :=
  ⟨text.takeWhile isBlank, List.all_eq_true.mp List.all_takeWhile,
    (List.takeWhile_append_dropWhile).symm⟩

lemma trimStart_append {blanks : List Char} (h : ∀ c ∈ blanks, isBlank c = true)
    (rest : List Char) : trimStart (blanks ++ rest) = trimStart rest :=
  List.dropWhile_append_of_pos h

lemma cutBlank_eq_self (h : ∀ c ∈ text, isBlank c = false) : cutBlank text = (text, []) := by
  induction text with
  | nil => rfl
  | cons c text ih =>
    obtain ⟨hc, htext⟩ := List.forall_mem_cons.mp h
    rw [cutBlank, if_neg (by simp [hc]), ih htext]

lemma cutBlank_append {word : List Char} {blank : Char} (h : ∀ c ∈ word, isBlank c = false)
    (hblank : isBlank blank = true) (rest : List Char) :
    cutBlank (word ++ blank :: rest) = (word, rest) := by
  induction word with
  | nil => rw [List.nil_append, cutBlank, if_pos hblank]
  | cons c word ih =>
    obtain ⟨hc, hword⟩ := List.forall_mem_cons.mp h
    rw [List.cons_append, cutBlank, if_neg (by simp [hc]), ih hword]

/-- A text has no blank, or a word in front of a first one. -/
lemma noBlank_or_exists_word (text : List Char) : (∀ c ∈ text, isBlank c = false) ∨
    ∃ word blank rest, text = word ++ blank :: rest ∧ (∀ c ∈ word, isBlank c = false) ∧
      isBlank blank = true := by
  induction text with
  | nil => exact .inl (by simp)
  | cons c text ih =>
    cases hc : isBlank c with
    | true => exact .inr ⟨[], c, text, rfl, by simp, hc⟩
    | false =>
      rcases ih with hnone | ⟨word, blank, rest, rfl, hword, hblank⟩
      · exact .inl (List.forall_mem_cons.mpr ⟨hc, hnone⟩)
      · exact .inr ⟨c :: word, blank, rest, rfl, List.forall_mem_cons.mpr ⟨hc, hword⟩, hblank⟩

/-! ### Words -/

lemma words_blanks {blanks : List Char} (h : ∀ c ∈ blanks, isBlank c = true) (rest : List Char) :
    words (blanks ++ rest) = words rest := by
  induction blanks with
  | nil => rfl
  | cons c blanks ih =>
    obtain ⟨hc, hblanks⟩ := List.forall_mem_cons.mp h
    rw [← ih hblanks, words, List.cons_append, wordsFrom, if_pos hc, if_pos (by rfl), ← words]

lemma words_of_blank (h : ∀ c ∈ text, isBlank c = true) : words text = [] := by
  have hwords := words_blanks h []
  rwa [List.append_nil] at hwords

lemma words_word {word rest : List Char} (hne : word ≠ []) (h : ∀ c ∈ word, isBlank c = false)
    (hrest : ∀ c ∈ rest.head?, isBlank c = true) : words (word ++ rest) = word :: words rest := by
  rw [words, wordsFrom_append h]
  cases rest with
  | nil => simp [words, wordsFrom, hne]
  | cons c rest =>
    have hc : isBlank c = true := hrest c rfl
    have hskip : words ([c] ++ rest) = words rest := words_blanks (by simpa using hc) rest
    rw [List.singleton_append] at hskip
    rw [wordsFrom, if_pos hc, if_neg (by simpa using hne), hskip, List.append_nil,
      List.reverse_reverse, words]

/-- A text is blank, or it has a first word. -/
lemma blank_or_exists_word (text : List Char) : (∀ c ∈ text, isBlank c = true) ∨
    ∃ blanks word rest, text = blanks ++ (word ++ rest) ∧ (∀ c ∈ blanks, isBlank c = true) ∧
      word ≠ [] ∧ (∀ c ∈ word, isBlank c = false) ∧ ∀ c ∈ rest.head?, isBlank c = true := by
  obtain ⟨blanks, hblanks, htext⟩ := exists_eq_append_trimStart text
  rcases noBlank_or_exists_word (trimStart text) with hword | ⟨word, blank, rest, hbehind, hword, hc⟩
  · by_cases hne : trimStart text = []
    · left
      rwa [htext, hne, List.append_nil]
    · exact .inr ⟨blanks, trimStart text, [], by rwa [List.append_nil], hblanks, hne, hword, by simp⟩
  · refine .inr ⟨blanks, word, blank :: rest, by rw [← hbehind, ← htext], hblanks, ?_, hword, ?_⟩
    · rintro rfl
      have hfirst := @head?_trimStart text blank (by rw [hbehind]; rfl)
      exact absurd (hc.symm.trans hfirst) (by decide)
    · intro c hfirst
      obtain rfl : blank = c := Option.some.inj hfirst
      exact hc

lemma blank_of_words_eq_nil (h : words text = []) : ∀ c ∈ text, isBlank c = true := by
  rcases blank_or_exists_word text with hblank | ⟨blanks, word, rest, rfl, hblanks, hne, hword, hrest⟩
  · exact hblank
  · rw [words_blanks hblanks, words_word hne hword hrest] at h
    contradiction

lemma exists_of_words_eq_cons {word : List Char} {more : List (List Char)}
    (h : words text = word :: more) : ∃ blanks rest, text = blanks ++ (word ++ rest) ∧
      (∀ c ∈ blanks, isBlank c = true) ∧ word ≠ [] ∧ (∀ c ∈ word, isBlank c = false) ∧
      (∀ c ∈ rest.head?, isBlank c = true) ∧ words rest = more := by
  rcases blank_or_exists_word text with hblank | ⟨blanks, word', rest, rfl, hblanks, hne, hword, hrest⟩
  · rw [words_of_blank hblank] at h
    contradiction
  · rw [words_blanks hblanks, words_word hne hword hrest] at h
    obtain ⟨rfl, hmore⟩ := List.cons.inj h
    exact ⟨blanks, rest, rfl, hblanks, hne, hword, hrest, hmore⟩

/-- A text has two words exactly if it consists of them and of white space: some between them, and
any around them. -/
theorem words_eq_pair_iff {first second : List Char} : words text = [first, second] ↔
    ∃ before between after, text = before ++ first ++ between ++ second ++ after ∧
      (∀ c ∈ before ++ between ++ after, isBlank c = true) ∧ between ≠ [] ∧
      (first ≠ [] ∧ ∀ c ∈ first, isBlank c = false) ∧
      (second ≠ [] ∧ ∀ c ∈ second, isBlank c = false) := by
  constructor
  · intro h
    obtain ⟨before, rest, rfl, hbefore, hfirst, hfirst', hrest, hwords⟩ := exists_of_words_eq_cons h
    obtain ⟨between, after, rfl, hbetween, hsecond, hsecond', -, hnil⟩ :=
      exists_of_words_eq_cons hwords
    have hafter := blank_of_words_eq_nil hnil
    refine ⟨before, between, after, by simp, ?_, ?_, ⟨hfirst, hfirst'⟩, hsecond, hsecond'⟩
    · simpa only [List.forall_mem_append] using ⟨⟨hbefore, hbetween⟩, hafter⟩
    -- Without a blank between them the two would be one word.
    · rintro rfl
      obtain ⟨c, second, rfl⟩ := List.exists_cons_of_ne_nil hsecond
      exact absurd ((hrest c (by simp)).symm.trans (hsecond' c (by simp))) (by decide)
  · rintro ⟨before, between, after, rfl, hblank, hne, ⟨hfirst, hfirst'⟩, hsecond, hsecond'⟩
    simp only [List.forall_mem_append] at hblank
    obtain ⟨⟨hbefore, hbetween⟩, hafter⟩ := hblank
    have hgap : ∀ c ∈ (between ++ (second ++ after)).head?, isBlank c = true := by
      intro c hfirst
      rw [List.head?_append_of_ne_nil _ hne] at hfirst
      exact hbetween c (List.mem_of_mem_head? hfirst)
    have hend : ∀ c ∈ after.head?, isBlank c = true :=
      fun c hc => hafter c (List.mem_of_mem_head? hc)
    simp only [List.append_assoc]
    rw [words_blanks hbefore, words_word hfirst hfirst' hgap, words_blanks hbetween,
      words_word hsecond hsecond' hend, words_of_blank hafter]

/-! ### Behind a text -/

lemma trimEnd_trimEnd (text : List Char) : trimEnd (trimEnd text) = trimEnd text :=
  trimEnd_of_last fun _ => getLast?_trimEnd

lemma trimEnd_concat_blank {c : Char} (h : isBlank c = true) (text : List Char) :
    trimEnd (text ++ [c]) = trimEnd text :=
  List.rdropWhile_concat_pos isBlank text c h

lemma trimEnd_eq_nil_iff : trimEnd text = [] ↔ ∀ c ∈ text, isBlank c = true :=
  List.rdropWhile_eq_nil_iff

/-- Nothing is trimmed in front of what is not all blank. -/
lemma trimEnd_append {rest : List Char} (h : trimEnd rest ≠ []) (text : List Char) :
    trimEnd (text ++ rest) = text ++ trimEnd rest := by
  have hne : (rest.reverse.dropWhile isBlank).isEmpty = false := by
    simpa [trimEnd] using h
  rw [trimEnd, List.reverse_append, List.dropWhile_append, if_neg (by simp [hne])]
  simp [trimEnd]

end Judge.Text
