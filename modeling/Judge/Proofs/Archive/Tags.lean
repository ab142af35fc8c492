import Judge.Archive.Properties.Reader
import Judge.Archive.Properties.Writer
import Judge.Proofs.Decimal.Integer
import Judge.Proofs.Text.Lines

/-!
Tags: whatever they hold, they are written on one line that starts and ends with a quote. That line is
read as tags of the same characters, but for those that are not visible: quoting gives them names, and
reading takes the names for text.
-/

namespace Judge.Archive

open Text (isBlank isVisible quote quoteChar trim)

/-! ### Quoted characters -/

lemma mem_toDigits {base n : Nat} (hbase : 1 < base) {c : Char} (h : c ∈ Nat.toDigits base n) :
    ∃ d < base, c = Nat.digitChar d := by
  induction n using Nat.strongRecOn with
  | ind n ih =>
    rw [Nat.toDigits_eq_if hbase] at h
    split at h
    · next hlt => exact ⟨n, hlt, List.mem_singleton.mp h⟩
    · next hle =>
      rcases List.mem_append.mp h with h | h
      · exact ih (n / base) (Nat.div_lt_self (by omega) hbase) h
      · exact ⟨n % base, Nat.mod_lt _ (by omega), List.mem_singleton.mp h⟩

/-- Hexadecimal digits are none of the characters that tags treat in a way of their own. -/
lemma plain_of_mem_toDigits {n : Nat} {c : Char} (h : c ∈ Nat.toDigits 16 n) :
    c ≠ '\n' ∧ c ≠ '\x22' ∧ c ≠ '\\' := by
  obtain ⟨d, hd, rfl⟩ := mem_toDigits (by decide) h
  have hall : ∀ d < 16, Nat.digitChar d ≠ '\n' ∧ Nat.digitChar d ≠ '\x22' ∧
      Nat.digitChar d ≠ '\\' := by decide
  exact hall d hd

/-- What quoting writes for a character that is not visible: a letter or digit behind a backslash,
and for most of them the code point behind that. -/
def IsName (c : Char) (name : List Char) : Prop :=
  name = ['n'] ∨ name = ['r'] ∨ name = ['t'] ∨ name = ['0'] ∨
    name = 'u' :: '\x7b' :: Nat.toDigits 16 c.toNat ++ ['\x7d']

/-- A character is quoted as it is if it is visible, but for a backslash in front of quotes and
backslashes; else its name stands behind a backslash. -/
lemma quoteChar_cases (c : Char) :
    (quoteChar c = [c] ∧ isVisible c = true ∧ c ≠ '\x22' ∧ c ≠ '\\') ∨
    (quoteChar c = ['\\', c] ∧ isVisible c = true ∧ (c = '\x22' ∨ c = '\\')) ∨
    ∃ name, quoteChar c = '\\' :: name ∧ isVisible c = false ∧ IsName c name := by
  rw [quoteChar]
  split
  · next h => exact .inr (.inl ⟨by rw [h], h ▸ by decide +kernel, .inl h⟩)
  split
  · next h => exact .inr (.inl ⟨by rw [h], h ▸ by decide +kernel, .inr h⟩)
  split
  · next h => exact .inr (.inr ⟨_, rfl, h ▸ by decide +kernel, by simp [IsName]⟩)
  split
  · next h => exact .inr (.inr ⟨_, rfl, h ▸ by decide +kernel, by simp [IsName]⟩)
  split
  · next h => exact .inr (.inr ⟨_, rfl, h ▸ by decide +kernel, by simp [IsName]⟩)
  split
  · next h => exact .inr (.inr ⟨_, rfl, h ▸ by decide +kernel, by simp [IsName]⟩)
  split
  · next hquote hbackslash _ _ _ _ h => exact .inl ⟨rfl, h, hquote, hbackslash⟩
  · next h => exact .inr (.inr ⟨_, rfl, by simpa using h, by simp [IsName]⟩)

/-- Both ends of a name are letters, digits or braces. -/
lemma IsName.ends {c : Char} {name : List Char} (h : IsName c name) :
    (∃ e more, name = e :: more ∧ isVisible e = true ∧ isBlank e = false) ∧
      ∃ front e, name = front ++ [e] ∧ isBlank e = false := by
  rcases h with rfl | rfl | rfl | rfl | rfl
  · exact ⟨⟨_, _, rfl, by decide +kernel, by decide⟩, [], _, rfl, by decide⟩
  · exact ⟨⟨_, _, rfl, by decide +kernel, by decide⟩, [], _, rfl, by decide⟩
  · exact ⟨⟨_, _, rfl, by decide +kernel, by decide⟩, [], _, rfl, by decide⟩
  · exact ⟨⟨_, _, rfl, by decide +kernel, by decide⟩, [], _, rfl, by decide⟩
  · exact ⟨⟨_, _, rfl, by decide +kernel, by decide⟩, _, _, rfl, by decide⟩

/-- A name holds no character that tags treat in a way of their own. -/
lemma IsName.plain {c d : Char} {name : List Char} (h : IsName c name) (hd : d ∈ name) :
    d ≠ '\n' ∧ d ≠ '\x22' ∧ d ≠ '\\' := by
  have hsingle : ∀ e : Char, e ∈ ['n', 'r', 't', '0', 'u', '\x7b', '\x7d'] →
      e ≠ '\n' ∧ e ≠ '\x22' ∧ e ≠ '\\' := by simp
  rcases h with rfl | rfl | rfl | rfl | rfl
  · exact hsingle d (by simp_all)
  · exact hsingle d (by simp_all)
  · exact hsingle d (by simp_all)
  · exact hsingle d (by simp_all)
  · simp only [List.cons_append, List.mem_cons, List.mem_append, List.not_mem_nil, or_false] at hd
    rcases hd with rfl | rfl | hd | rfl
    · exact hsingle _ (by decide)
    · exact hsingle _ (by decide)
    · exact plain_of_mem_toDigits hd
    · exact hsingle _ (by decide)

lemma newline_notMem_quoteChar (c : Char) : '\n' ∉ quoteChar c := by
  rcases quoteChar_cases c with ⟨h, hvisible, -⟩ | ⟨h, -, hc⟩ | ⟨name, h, -, hname⟩ <;> rw [h]
  · intro hmem
    obtain rfl := List.mem_singleton.mp hmem
    exact absurd hvisible (by decide +kernel)
  · rcases hc with rfl | rfl <;> decide
  · intro hmem
    rcases List.mem_cons.mp hmem with hmem | hmem
    · exact absurd hmem (by decide)
    · exact (hname.plain hmem).1 rfl

/-! ### Written tags -/

lemma newline_notMem_quote (text : List Char) : '\n' ∉ quote text := by
  simp only [quote, List.mem_append, List.mem_cons, List.mem_flatMap, List.not_mem_nil, or_false,
    not_or, not_exists, not_and]
  exact ⟨⟨by decide, fun c _ => newline_notMem_quoteChar c⟩, by decide⟩

theorem newline_notMem_writeTags (tags : List String) : '\n' ∉ writeTags tags := by
  intro h
  rcases Text.mem_join h with h | ⟨piece, hpiece, h⟩
  · exact absurd h (by decide)
  · obtain ⟨tag, -, rfl⟩ := List.mem_map.mp hpiece
    exact newline_notMem_quote _ h

lemma quote_ends (text : List Char) :
    (quote text).head? = some '\x22' ∧ (quote text).getLast? = some '\x22' := by
  refine ⟨rfl, ?_⟩
  rw [quote, List.getLast?_concat]

/-- Written tags are a line: they start and end with a quote, if there are any. -/
theorem trim_writeTags (tags : List String) : Text.trim (writeTags tags) = writeTags tags := by
  by_cases hne : tags = []
  · rw [hne]
    rfl
  have hends : (writeTags tags).head? = some '\x22' ∧ (writeTags tags).getLast? = some '\x22' :=
    Text.join_ends (by simpa using hne)
      (List.forall_mem_map.mpr fun (tag : String) _ => quote_ends tag.toList)
  apply Text.trim_eq_self
  · intro c hc
    obtain rfl : '\x22' = c := by simpa [hends.1] using hc
    decide
  · intro c hc
    obtain rfl : '\x22' = c := by simpa [hends.2] using hc
    decide

/-! ### Reading tags -/

section Steps

variable (tag rest : List Char)

lemma readTags_nil : readTags false tag [] = .ok (closeTag tag) := by
  rw [readTags.eq_def]
  rfl

lemma readTags_quote (inQuotes : Bool) :
    readTags inQuotes tag ('\x22' :: rest) = readTags (!inQuotes) tag rest := by
  rw [readTags.eq_def]
  simp

lemma readTags_plain {c : Char} (hquote : c ≠ '\x22') (hbackslash : c ≠ '\\') :
    readTags true tag (c :: rest) = readTags true (c :: tag) rest := by
  rw [readTags.eq_def]
  simp [hquote, hbackslash]

lemma readTags_escaped (e : Char) :
    readTags true tag ('\\' :: e :: rest) = readTags true (e :: tag) rest := by
  rw [readTags.eq_def]
  simp

lemma readTags_comma :
    readTags false tag (',' :: rest) = (readTags false [] rest).map (closeTag tag ++ ·) := by
  rw [readTags.eq_def]
  simp

end Steps

lemma readTags_append {plain : List Char} (h : ∀ c ∈ plain, c ≠ '\x22' ∧ c ≠ '\\')
    (tag rest : List Char) :
    readTags true tag (plain ++ rest) = readTags true (plain.reverse ++ tag) rest := by
  induction plain generalizing tag with
  | nil => rfl
  | cons c plain ih =>
    obtain ⟨hquote, hbackslash⟩ := h c (by simp)
    rw [List.cons_append, readTags_plain _ _ hquote hbackslash, ih fun d hd => h d (by simp [hd])]
    simp

/-- What is read of a quoted character: what stands behind the backslash, if there is one. -/
def reread (c : Char) : List Char :=
  match quoteChar c with
  | '\\' :: name => name
  | shown => shown

lemma reread_of_backslash {c : Char} {name : List Char} (h : quoteChar c = '\\' :: name) :
    reread c = name := by
  rw [reread, h]
  rfl

lemma reread_of_plain {c : Char} (h : quoteChar c = [c]) (hc : c ≠ '\\') : reread c = [c] := by
  rw [reread, h]
  split
  · next heq => exact absurd (List.cons.inj heq).1 hc
  · rfl

/-- Visible characters are read as themselves, and of all others their names are read. -/
lemma reread_cases (c : Char) :
    (isVisible c = true ∧ reread c = [c]) ∨ (isVisible c = false ∧ IsName c (reread c)) := by
  rcases quoteChar_cases c with ⟨h, hvisible, -, hc⟩ | ⟨h, hvisible, -⟩ | ⟨name, h, hvisible, hname⟩
  · exact .inl ⟨hvisible, reread_of_plain h hc⟩
  · exact .inl ⟨hvisible, reread_of_backslash h⟩
  · exact .inr ⟨hvisible, reread_of_backslash h ▸ hname⟩

lemma readTags_quoteChar (c : Char) (tag rest : List Char) :
    readTags true tag (quoteChar c ++ rest) = readTags true ((reread c).reverse ++ tag) rest := by
  rcases quoteChar_cases c with ⟨h, -, hquote, hbackslash⟩ | ⟨h, -, -⟩ | ⟨name, h, -, hname⟩
  · rw [reread_of_plain h hbackslash, h]
    exact readTags_plain tag rest hquote hbackslash
  · rw [reread_of_backslash h, h]
    exact readTags_escaped tag rest c
  · obtain ⟨e, more, rfl, -⟩ := hname.ends.1
    have hmore : ∀ d ∈ more, d ≠ '\x22' ∧ d ≠ '\\' :=
      fun d hd => (hname.plain (List.mem_cons_of_mem e hd)).2
    rw [reread_of_backslash h, h, List.cons_append, List.cons_append, readTags_escaped,
      readTags_append hmore, List.reverse_cons, List.append_assoc, List.singleton_append]

/-- A quoted tag is read as a part of the tag before the next comma. -/
lemma readTags_quoted (text tag rest : List Char) : readTags false tag (quote text ++ rest) =
    readTags false ((text.flatMap reread).reverse ++ tag) rest := by
  -- What stands between the quotes changes the tag alone, never the state of the quotes.
  have hinner : ∀ rest, readTags true tag (text.flatMap quoteChar ++ rest) =
      readTags true ((text.flatMap reread).reverse ++ tag) rest := by
    induction text generalizing tag with
    | nil => exact fun rest => rfl
    | cons c text ih =>
      intro rest
      rw [List.flatMap_cons, List.append_assoc, readTags_quoteChar, ih, List.flatMap_cons,
        List.reverse_append, List.append_assoc]
  rw [quote, List.append_assoc, List.cons_append, readTags_quote, Bool.not_false, hinner,
    List.singleton_append, readTags_quote, Bool.not_true]

/-- What is read of written tags. -/
def rereadTags (tags : List String) : List String :=
  tags.flatMap fun tag => closeTag (tag.toList.flatMap reread).reverse

theorem readTags_writeTags (tags : List String) :
    readTags false [] (writeTags tags) = .ok (rereadTags tags) := by
  induction tags with
  | nil => exact readTags_nil []
  | cons tag tags ih =>
    cases tags with
    | nil =>
      have hread := readTags_quoted tag.toList [] []
      rw [List.append_nil, List.append_nil, readTags_nil] at hread
      rw [rereadTags, List.flatMap_singleton]
      exact hread
    | cons other tags =>
      have hjoin : writeTags (tag :: other :: tags) =
          quote tag.toList ++ ',' :: writeTags (other :: tags) := by
        simp [writeTags, Text.join]
      rw [hjoin, readTags_quoted, readTags_comma, ih, List.append_nil]
      rfl

end Judge.Archive
