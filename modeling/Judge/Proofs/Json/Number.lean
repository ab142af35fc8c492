import Mathlib.Data.List.TakeDrop
import Mathlib.Data.List.TakeWhile
import Judge.Json.Decoder
import Judge.Proofs.Decimal.Integer
import Judge.Proofs.Json.Text

/-!
Numbers are read back from their written form wherever they stand in a text, if what comes after
them does not go on with a number: whole numbers always, floating-point numbers if they are read
back at all.
-/

namespace Judge.Json

open Utf8 (encode)
open Decimal (writeInt writeNat isDigit_of_mem_writeNat writeNat_ne_nil
  head?_writeNat mem_writeInt le_ofDigitChars ofDigitChars_writeNat)

/-- Whether a character can go on with a number. -/
def goesOn (c : Char) : Bool := c.isDigit || c == '.' || c == 'e' || c == 'E'

/-- What may follow a value: nothing that a number could go on with. -/
def Closes (rest : List Char) : Prop := ∀ c ∈ rest.head?, goesOn c = false

lemma closes_nil : Closes [] := by simp [Closes]

lemma closes_cons {c : Char} (h : goesOn c = false) (rest : List Char) : Closes (c :: rest) := by
  simpa [Closes] using h

/-- Whether a character can be the first one of a value in a list. -/
def starts (c : Char) : Bool := !(c == ' ' || c == '\n' || c == '\t' || c == '\r' || c == ']')

/-- A value is read from a text up to its end, whatever closes it. -/
structure ReadsFrom (text : List Char) (reading : Reading) : Prop where
  starts : ∃ c body, text = c :: body ∧ starts c = true
  reads : ∀ fuel rest, 3 * text.length ≤ fuel → Closes rest →
    readValue fuel (text ++ rest) = (reading, some rest)

/-- A value is read back from its written form at any level. -/
def Reads (value : Value) (reading : Reading) : Prop :=
  ∀ level, ReadsFrom (wire (write level value)) reading

lemma skipBlanks_cons {c : Char} (h : starts c = true) (rest : List Char) :
    skipBlanks (c :: rest) = c :: rest := by
  rw [skipBlanks, List.dropWhile_cons, if_neg]
  simp only [starts, Bool.not_eq_true', Bool.or_eq_false_iff] at h
  simp [h]

lemma skipBlanks_newLine (level : Nat) (rest : List Char) :
    skipBlanks (newLine level ++ rest) = skipBlanks rest := by
  have hspaces : ∀ count : Nat, skipBlanks (List.replicate count ' ' ++ rest) = skipBlanks rest := by
    intro count
    induction count with
    | zero => rfl
    | succ count ih => rw [List.replicate_succ, List.cons_append]; exact ih
  exact hspaces _

lemma wire_newLine (level : Nat) : wire (newLine level) = newLine level := by
  apply wire_ascii
  intro c hc
  rcases List.mem_cons.mp hc with rfl | hc
  · decide
  · rw [List.eq_of_mem_replicate hc]
    decide

section Number

variable {digits rest text : List Char} {n m : Number}

lemma Closes.isDigit (h : Closes rest) {c : Char} (hc : c ∈ rest.head?) : c.isDigit = false := by
  have hno := h c hc
  simp only [goesOn, Bool.or_eq_false_iff] at hno
  exact hno.1.1.1

lemma span_isDigit_append (h : ∀ c ∈ digits, c.isDigit = true)
    (hrest : ∀ c ∈ rest.head?, c.isDigit = false) :
    (digits ++ rest).span Char.isDigit = (digits, rest) := by
  rw [List.span_eq_takeWhile_dropWhile, List.takeWhile_append_of_pos h,
    List.dropWhile_append_of_pos h]
  cases rest with
  | nil => simp
  | cons c rest =>
    have hc : c.isDigit = false := hrest c (by simp)
    simp [hc]

/-- The digits that a text starts with, and what comes after them, whatever closes the text. -/
lemma span_append_of_closes (hrest : Closes rest) :
    (text ++ rest).span Char.isDigit =
      ((text.span Char.isDigit).1, (text.span Char.isDigit).2 ++ rest) := by
  rw [List.span_eq_takeWhile_dropWhile (l := text)]
  have hall : ∀ c ∈ text.takeWhile Char.isDigit, c.isDigit = true := fun c hc =>
    List.mem_takeWhile_imp hc
  have hhead : ∀ c ∈ (text.dropWhile Char.isDigit ++ rest).head?, c.isDigit = false := by
    intro c hc
    have hstop := List.head?_dropWhile_not Char.isDigit text
    cases hleft : text.dropWhile Char.isDigit with
    | nil =>
      rw [hleft, List.nil_append] at hc
      exact hrest.isDigit hc
    | cons d left =>
      rw [hleft, List.cons_append, List.head?_cons, Option.mem_some_iff] at hc
      subst hc
      simpa [hleft] using hstop
  conv_lhs => rw [← List.takeWhile_append_dropWhile (p := Char.isDigit) (l := text),
    List.append_assoc]
  exact span_isDigit_append hall hhead

/-- A way to read on after a part of a number: it leaves what the text ends with, and where the text
ends with the number, the number is also read if something closes the text. -/
structure ReadsOn (readOn : List Char → Step Reading) : Prop where
  suffix : ∀ {text m left}, readOn text = (.number m, some left) → left <:+ text
  append : ∀ {text rest m}, Closes rest → readOn text = (.number m, some []) →
    readOn (text ++ rest) = (.number m, some rest)

/-- Reads digits, of which there must be one, and then goes on. -/
def readDigits (next : List Char → List Char → Step Reading) (text : List Char) : Step Reading :=
  match text.span Char.isDigit with
  | ([], rest) => stopAt (missingDigit rest)
  | (digits, rest) => next digits rest

lemma readsOn_readDigits {next : List Char → List Char → Step Reading}
    (h : ∀ digits, ReadsOn (next digits)) : ReadsOn (readDigits next) := by
  constructor
  · intro text m left hread
    rw [readDigits, List.span_eq_takeWhile_dropWhile] at hread
    split at hread
    · simp [stopAt] at hread
    · next hspan =>
      rw [Prod.mk.injEq] at hspan
      have hsuffix := (h _).suffix hread
      rw [← hspan.2] at hsuffix
      exact hsuffix.trans (List.dropWhile_suffix _)
  · intro text rest m hrest hread
    rw [readDigits] at hread ⊢
    rw [span_append_of_closes hrest]
    generalize text.span Char.isDigit = split at hread ⊢
    obtain ⟨_ | ⟨d, digits⟩, left⟩ := split
    · simp [stopAt] at hread
    · exact (h (d :: digits)).append hrest hread

lemma readsOn_end (n : Number) : ReadsOn fun rest => (.number n, some rest) := by
  constructor
  · intro text m left hread
    obtain ⟨-, rfl⟩ : _ ∧ text = left := by simpa using hread
    exact List.suffix_rfl
  · intro text rest m _ hread
    obtain ⟨hnumber, rfl⟩ : Reading.number n = .number m ∧ text = [] := by simpa using hread
    rw [hnumber, List.nil_append]

/-- The exponent of a number. -/
lemma readNumberExponent_cons (n : Number) (c : Char) (text : List Char) :
    readNumberExponent n (c :: text) =
      if c = 'e' ∨ c = 'E' then
        readDigits (fun digits rest =>
          (.number { n with exponent := some (text.head? == some '-', digits) }, some rest))
          (if text.head? = some '-' ∨ text.head? = some '+' then text.tail else text)
      else (.number n, some (c :: text)) := by
  rw [readNumberExponent.eq_def]
  simp only
  split
  · cases text with
    | nil => rfl
    | cons d text =>
      by_cases hminus : d = '-'
      · subst hminus; rfl
      · by_cases hplus : d = '+'
        · subst hplus; rfl
        · have hd : (some d == some '-') = false := by simpa using hminus
          have hsign : ¬ (some d = some '-' ∨ some d = some '+') := by simp [hminus, hplus]
          rw [List.head?_cons, hd, if_neg hsign, readDigits]
          -- Without a sign the digits begin at once.
          split
          · next hspan =>
            split at hspan
            · next heq => exact absurd (List.cons.inj heq).1 hminus
            · next heq => exact absurd (List.cons.inj heq).1 hplus
            · rw [hspan]
          · next digits left hne hspan =>
            split at hspan
            · next heq => exact absurd (List.cons.inj heq).1 hminus
            · next heq => exact absurd (List.cons.inj heq).1 hplus
            · rw [hspan]
              cases digits with
              | nil => exact absurd rfl hne
              | cons e digits => rfl
  · rfl

lemma readsOn_readNumberExponent (n : Number) : ReadsOn (readNumberExponent n) := by
  constructor
  · intro text m left hread
    cases text with
    | nil =>
      obtain ⟨-, rfl⟩ : _ ∧ [] = left := by simpa [readNumberExponent.eq_def] using hread
      exact List.suffix_rfl
    | cons c text =>
      rw [readNumberExponent_cons] at hread
      split at hread
      · refine ((readsOn_readDigits fun _ => readsOn_end _).suffix hread).trans ?_
        split
        · exact (List.tail_suffix text).trans (List.suffix_cons c text)
        · exact List.suffix_cons c text
      · obtain ⟨-, rfl⟩ : _ ∧ c :: text = left := by simpa using hread
        exact List.suffix_rfl
  · intro text rest m hrest hread
    cases text with
    | nil =>
      obtain rfl : n = m := by simpa [readNumberExponent.eq_def] using hread
      cases rest with
      | nil => exact hread
      | cons c rest =>
        have hc : goesOn c = false := hrest c (by simp)
        simp only [goesOn, Bool.or_eq_false_iff, beq_eq_false_iff_ne] at hc
        rw [List.nil_append, readNumberExponent_cons, if_neg]
        rintro (rfl | rfl)
        · exact hc.1.2 rfl
        · exact hc.2 rfl
    | cons c text =>
      rw [readNumberExponent_cons] at hread
      split at hread
      · next he =>
        have htext : text ≠ [] := by
          rintro rfl
          simp [readDigits, stopAt] at hread
        obtain ⟨d, text, rfl⟩ := List.exists_cons_of_ne_nil htext
        rw [List.cons_append, readNumberExponent_cons, if_pos he]
        by_cases hsign : (d :: text).head? = some '-' ∨ (d :: text).head? = some '+'
        · rw [if_pos hsign] at hread
          rw [if_pos (by simpa using hsign)]
          exact (readsOn_readDigits fun _ => readsOn_end _).append hrest hread
        · rw [if_neg hsign] at hread
          rw [if_neg (by simpa using hsign)]
          exact (readsOn_readDigits fun _ => readsOn_end _).append hrest hread
      · simp at hread

/-- Without a point in front there is no fraction. -/
lemma readNumberFraction_of_head? (h : text.head? ≠ some '.') (n : Number) :
    readNumberFraction n text = readNumberExponent n text := by
  rw [readNumberFraction.eq_def]
  split
  · exact absurd rfl h
  · rfl

lemma readsOn_readNumberFraction (n : Number) : ReadsOn (readNumberFraction n) := by
  have hfraction : ∀ tail : List Char, readNumberFraction n ('.' :: tail) =
      readDigits (fun digits rest => readNumberExponent { n with fraction := some digits } rest)
        tail := fun _ => rfl
  have hdigits := readsOn_readDigits fun digits =>
    readsOn_readNumberExponent { n with fraction := some digits }
  constructor
  · intro text m left hread
    by_cases hpoint : text.head? = some '.'
    · obtain ⟨tail, rfl⟩ := List.head?_eq_some_iff.mp hpoint
      rw [hfraction] at hread
      exact (hdigits.suffix hread).trans (List.suffix_cons _ tail)
    · rw [readNumberFraction_of_head? hpoint] at hread
      exact (readsOn_readNumberExponent n).suffix hread
  · intro text rest m hrest hread
    by_cases hpoint : text.head? = some '.'
    · obtain ⟨tail, rfl⟩ := List.head?_eq_some_iff.mp hpoint
      rw [hfraction] at hread
      rw [List.cons_append, hfraction]
      exact hdigits.append hrest hread
    · have hpoint' : (text ++ rest).head? ≠ some '.' := by
        cases text with
        | nil => exact fun heq => absurd (hrest '.' heq) (by decide)
        | cons c text => exact hpoint
      rw [readNumberFraction_of_head? hpoint] at hread
      rw [readNumberFraction_of_head? hpoint']
      exact (readsOn_readNumberExponent n).append hrest hread

lemma readsOn_readNumber (negative : Bool) : ReadsOn (readNumber negative) := by
  have heq : readNumber negative = readDigits fun digits rest =>
      if digits.head? = some '0' ∧ digits.tail ≠ [] then stopAt (.all .malformed)
      else readNumberFraction { negative, whole := digits } rest := by
    funext text
    rw [readNumber, readDigits]
    rcases text.span Char.isDigit with ⟨_ | ⟨c, _ | ⟨d, digits⟩⟩, rest⟩
    · rfl
    · simp
    · by_cases hzero : c = '0'
      · simp [hzero]
      · simp [hzero]
  rw [heq]
  refine readsOn_readDigits fun digits => ?_
  by_cases hzero : digits.head? = some '0' ∧ digits.tail ≠ []
  · simp only [if_pos hzero]
    exact ⟨fun h => by simp [stopAt] at h, fun _ h => by simp [stopAt] at h⟩
  · simp only [if_neg hzero]
    exact readsOn_readNumberFraction _

lemma readValue_minus (fuel : Nat) (text : List Char) :
    readValue (fuel + 1) ('-' :: text) = readNumber true text := rfl

lemma starts_of_isDigit {c : Char} (h : c.isDigit = true) : starts c = true := by
  rw [starts, Bool.not_eq_true', Bool.eq_false_iff]
  intro hblank
  simp only [Bool.or_eq_true, beq_iff_eq] at hblank
  rcases hblank with (((rfl | rfl) | rfl) | rfl) | rfl <;> exact absurd h (by decide)

lemma readValue_digit {c : Char} (h : c.isDigit = true) (fuel : Nat) (text : List Char) :
    readValue (fuel + 1) (c :: text) = readNumber false (c :: text) := by
  have hother : ∀ d : Char, d.isDigit = false → c ≠ d := by
    rintro d hd rfl
    rw [h] at hd
    contradiction
  rw [readValue, skipBlanks_cons (starts_of_isDigit h)]
  have hn := hother 'n' (by decide)
  have ht := hother 't' (by decide)
  have hf := hother 'f' (by decide)
  have hquote := hother '\x22' (by decide)
  have hlist := hother '[' (by decide)
  have hrecord := hother '\x7b' (by decide)
  have hminus := hother '-' (by decide)
  simp [h]

/-- The characters of written numbers. -/
def numeric (c : Char) : Bool := c.isDigit || c == '-' || c == '.' || c == 'e' || c == '+'

lemma starts_of_numeric {c : Char} (h : numeric c = true) : starts c = true := by
  simp only [numeric, Bool.or_eq_true, beq_iff_eq] at h
  rcases h with (((hdigit | rfl) | rfl) | rfl) | rfl
  · exact starts_of_isDigit hdigit
  · decide
  · decide
  · decide
  · decide

/-- A text that is read as a number has a sign or a digit in front. -/
lemma exists_readNumber {fuel : Nat} {left : List Char} (hchars : ∀ c ∈ text, numeric c = true)
    (h : readValue (fuel + 1) text = (.number n, some left)) :
    ∃ c body, text = c :: body ∧
      (c = '-' ∧ readNumber true body = (.number n, some left) ∨
        c.isDigit = true ∧ readNumber false (c :: body) = (.number n, some left)) := by
  cases text with
  | nil => simp [readValue, skipBlanks, stopAt] at h
  | cons c body =>
    refine ⟨c, body, rfl, ?_⟩
    have hc := hchars c (by simp)
    simp only [numeric, Bool.or_eq_true, beq_iff_eq] at hc
    rcases hc with (((hdigit | rfl) | rfl) | rfl) | rfl
    · exact .inr ⟨hdigit, readValue_digit hdigit fuel body ▸ h⟩
    · exact .inl ⟨rfl, h⟩
    · simp [readValue, skipBlanks, stopAt] at h
    · simp [readValue, skipBlanks, stopAt] at h
    · simp [readValue, skipBlanks, stopAt] at h

/-- What a number leaves of a text is what the text ends with. -/
lemma suffix_of_readValue {fuel : Nat} {left : List Char} (hchars : ∀ c ∈ text, numeric c = true)
    (h : readValue (fuel + 1) text = (.number n, some left)) : left <:+ text := by
  obtain ⟨c, body, rfl, ⟨-, hread⟩ | ⟨-, hread⟩⟩ := exists_readNumber hchars h
  · exact ((readsOn_readNumber true).suffix hread).trans (List.suffix_cons c body)
  · exact (readsOn_readNumber false).suffix hread

/-- A text that is read as a number is read so wherever it is closed. -/
lemma readsFrom_of_number {fuel : Nat} (hchars : ∀ c ∈ text, numeric c = true)
    (h : readValue (fuel + 1) text = (.number n, some [])) : ReadsFrom text (.number n) := by
  obtain ⟨c, body, rfl, hread⟩ := exists_readNumber hchars h
  refine ⟨⟨c, body, rfl, starts_of_numeric (hchars c List.mem_cons_self)⟩,
    fun fuel rest hfuel hrest => ?_⟩
  rw [List.length_cons] at hfuel
  obtain ⟨fuel, rfl⟩ := Nat.exists_eq_add_of_le' (show 1 ≤ fuel by omega)
  rcases hread with ⟨rfl, hread⟩ | ⟨hdigit, hread⟩
  · rw [List.cons_append, readValue_minus]
    exact (readsOn_readNumber true).append hrest hread
  · rw [List.cons_append, readValue_digit hdigit]
    exact (readsOn_readNumber false).append hrest hread

/-- The digits of a whole number. -/
def numberOf (value : Int) : Number := { negative := value < 0, whole := writeNat value.natAbs }

lemma readNumber_writeNat (negative : Bool) (value : Nat) :
    readNumber negative (writeNat value) =
      (.number { negative, whole := writeNat value }, some []) := by
  have hspan : (writeNat value).span Char.isDigit = (writeNat value, []) := by
    have hdigits : ∀ c ∈ writeNat value, c.isDigit = true := fun _ => isDigit_of_mem_writeNat
    have happend := span_isDigit_append hdigits (show ∀ c ∈ [].head?, Char.isDigit c = false by simp)
    rwa [List.append_nil] at happend
  rw [readNumber, hspan]
  split
  · next hnil =>
    rw [Prod.mk.injEq] at hnil
    exact absurd hnil.1 (writeNat_ne_nil value)
  · next hzero =>
    rw [Prod.mk.injEq] at hzero
    rcases Nat.eq_zero_or_pos value with rfl | hpos
    · exact absurd hzero.1 (by simp [writeNat])
    · exact absurd (congrArg List.head? hzero.1) (head?_writeNat hpos)
  · next hdigits =>
    obtain ⟨rfl, rfl⟩ := Prod.mk.inj hdigits
    rfl

lemma numeric_of_isDigit {c : Char} (h : c.isDigit = true) : numeric c = true := by
  simp [numeric, h]

lemma numeric_of_mem_writeInt {value : Int} {c : Char} (h : c ∈ writeInt value) :
    numeric c = true := by
  rcases mem_writeInt h with hdigit | rfl
  · exact numeric_of_isDigit hdigit
  · decide

lemma toNat_lt_of_numeric {c : Char} (h : numeric c = true) : c.toNat < 128 := by
  simp only [numeric, Bool.or_eq_true, beq_iff_eq] at h
  rcases h with (((hdigit | rfl) | rfl) | rfl) | rfl
  · have hrange : 48 ≤ c.toNat ∧ c.toNat ≤ 57 := Char.isDigit_iff_toNat.mp hdigit
    omega
  · decide
  · decide
  · decide
  · decide

theorem reads_int (value : Int) : Reads (.int value) (.number (numberOf value)) := by
  intro level
  have hchars : ∀ c ∈ writeInt value, numeric c = true := fun _ => numeric_of_mem_writeInt
  rw [write, wire_ascii fun c hc => toNat_lt_of_numeric (hchars c hc)]
  refine readsFrom_of_number hchars (show readValue (0 + 1) _ = _ from ?_)
  have hnumber := readNumber_writeNat (value < 0) value.natAbs
  rw [writeInt]
  split
  · next hneg =>
    rw [readValue_minus, numberOf]
    simpa [hneg] using hnumber
  · next hnonneg =>
    obtain ⟨c, digits, hdigits⟩ := List.exists_cons_of_ne_nil (writeNat_ne_nil value.natAbs)
    have hc : c.isDigit = true := isDigit_of_mem_writeNat (by rw [hdigits]; exact List.mem_cons_self)
    rw [hdigits, readValue_digit hc, ← hdigits, numberOf]
    simpa [hnonneg] using hnumber

lemma gather_eq {digits : List Char} {value : Nat} (count : Nat)
    (hle : Nat.ofDigitChars 10 digits value ≤ Number.limit) :
    Number.gather value count digits =
      (Nat.ofDigitChars 10 digits value, count + digits.length, true) := by
  induction digits generalizing value count with
  | nil => rfl
  | cons c digits ih =>
    rw [Nat.ofDigitChars_cons] at hle ⊢
    have hnext := Nat.le_trans (le_ofDigitChars digits _) hle
    have hkeep : ¬ Number.limit < 10 * value + (c.toNat - 48) := by simpa using hnext
    simp only [Number.gather, if_neg hkeep, List.length_cons]
    have hrest := ih (count + 1) hle
    rw [show count + (digits.length + 1) = count + 1 + digits.length by omega]
    exact hrest

/-- A whole number within the bounds is taken back. -/
theorem asInt_numberOf {bounds : Decimal.Bounds} {value : Int}
    (h : bounds.contains value = true) (hfits : Decimal.int64.contains value = true) :
    asInt bounds (.number (numberOf value)) = .ok value := by
  have hrange := Decimal.Bounds.contains_iff.mp hfits
  simp only [Decimal.int64] at hrange
  have hnumeral : (numberOf value).numeral = .whole value := by
    have hle : Nat.ofDigitChars 10 (writeNat value.natAbs) 0 ≤ Number.limit := by
      rw [ofDigitChars_writeNat, Number.limit]
      omega
    have hgather := gather_eq 0 hle
    rw [ofDigitChars_writeNat] at hgather
    simp only [Number.numeral, numberOf, hgather, Bool.not_true, Bool.false_eq_true, if_false,
      Bool.not_eq_true', decide_eq_false_iff_not]
    split
    · next hnonneg =>
      congr 1
      omega
    · next hneg =>
      have hfit : ¬ (value.natAbs = 0 ∨ 9223372036854775808 < value.natAbs) := by omega
      rw [if_neg hfit]
      congr 1
      omega
  simp only [asInt, hnumeral, if_pos h]

/-- A number that is read back from a record that holds nothing else. -/
def Recordable (value : Decimal.Binary64) : Prop :=
  decode asReal (Utf8.encode (write 0 (.real value))) = .ok value

lemma Recordable.isFinite {value : Decimal.Binary64} (h : Recordable value) :
    value.isFinite = true := by
  by_contra hinfinite
  rw [Recordable, write, writeReal, if_neg hinfinite] at h
  have hnull : decode asReal (Utf8.encode ['n', 'u', 'l', 'l']) = .error .shape := by rfl
  rw [hnull] at h
  contradiction

lemma isDigit_of_mem_dropZeros (h : ∀ c ∈ digits, c.isDigit = true) {c : Char}
    (hc : c ∈ Decimal.dropZeros digits) : c.isDigit = true := by
  rw [Decimal.dropZeros] at hc
  split at hc
  · rw [List.mem_singleton.mp hc]
    decide
  · next hrest =>
    have hmem : c ∈ digits.reverse.dropWhile (· == '0') := by
      rw [List.mem_reverse] at hc
      exact hc
    exact h c (List.mem_reverse.mp ((List.dropWhile_suffix _).mem hmem))

lemma numeric_of_mem_place (layout : Decimal.Layout) (lead : Int)
    (h : ∀ c ∈ digits, c.isDigit = true) {c : Char} (hc : c ∈ layout.place digits lead) :
    numeric c = true := by
  have hdigit : ∀ {c}, c ∈ digits → numeric c = true := fun hc => numeric_of_isDigit (h _ hc)
  have hzero : ∀ {count : Nat} {c : Char}, c ∈ List.replicate count '0' → numeric c = true := by
    intro count c hc
    rw [List.eq_of_mem_replicate hc]
    decide
  have hpoint : numeric '.' = true := by decide
  unfold Decimal.Layout.place at hc
  split at hc
  · split at hc
    · simp only [List.mem_append, List.mem_cons, List.not_mem_nil, or_false] at hc
      rcases hc with ((rfl | rfl) | hc) | hc
      · decide
      · exact hpoint
      · exact hzero hc
      · exact hdigit hc
    · simp only at hc
      split at hc
      · simp only [List.mem_append] at hc
        rcases hc with (hc | hc) | hc
        · exact hdigit hc
        · exact hzero hc
        · split at hc
          · simp only [List.mem_cons, List.not_mem_nil, or_false] at hc
            rcases hc with rfl | rfl
            · exact hpoint
            · decide
          · contradiction
      · simp only [List.mem_append, List.mem_cons] at hc
        rcases hc with hc | rfl | hc
        · exact hdigit (List.mem_of_mem_take hc)
        · exact hpoint
        · exact hdigit (List.mem_of_mem_drop hc)
  · simp only [List.mem_append] at hc
    rcases hc with (hc | hc) | hc
    · split at hc
      · next d e rest =>
        simp only [List.mem_cons] at hc
        rcases hc with rfl | rfl | rfl | hc
        · exact hdigit (by simp)
        · exact hpoint
        · exact hdigit (by simp)
        · exact hdigit (by simp [hc])
      · exact hdigit hc
    · have hmark : c = 'e' ∨ c = '+' := by
        split at hc
        · exact .inl (List.mem_singleton.mp hc)
        · split at hc
          · simpa using hc
          · exact .inl (List.mem_singleton.mp hc)
      rcases hmark with rfl | rfl <;> decide
    · exact numeric_of_mem_writeInt hc

lemma numeric_of_mem_writeReal {value : Decimal.Binary64} (h : value.isFinite = true) {c : Char}
    (hc : c ∈ writeReal value) : numeric c = true := by
  rw [writeReal, if_pos h] at hc
  cases value with
  | nan => contradiction
  | infinite negative => contradiction
  | finite negative steps =>
    simp only [Decimal.Layout.write, List.mem_append] at hc
    rcases hc with hc | hc
    · split at hc
      · rw [List.mem_singleton.mp hc]
        decide
      · contradiction
    · split at hc
      · have hzero : ∀ d ∈ ['0', '.', '0'], numeric d = true := by
          simp only [List.forall_mem_cons]
          exact ⟨by decide, by decide, by decide, by simp⟩
        have hpoint : Decimal.recordLayout.pointZero = true := rfl
        rw [if_pos hpoint] at hc
        exact hzero c hc
      · exact numeric_of_mem_place _ _
          (fun _ => isDigit_of_mem_dropZeros fun _ => isDigit_of_mem_writeNat) hc

/-- A number that is read back from a record that holds nothing else is read back from any. -/
theorem reads_real {value : Decimal.Binary64} (h : Recordable value) :
    ∃ n, Reads (.real value) (.number n) ∧ asReal (.number n) = .ok value := by
  have hchars : ∀ c ∈ writeReal value, numeric c = true := fun _ =>
    numeric_of_mem_writeReal h.isFinite
  have hwire : wire (writeReal value) = writeReal value :=
    wire_ascii fun c hc => toNat_lt_of_numeric (hchars c hc)
  have hbytes : (encode (writeReal value)).map charOf = writeReal value := hwire
  have hdecode : decode asReal (encode (writeReal value)) = .ok value := h
  rw [decode, read, hbytes] at hdecode
  rcases hread : readValue (3 * (encode (writeReal value)).length + 2 + 1) (writeReal value)
    with ⟨reading, left⟩
  simp only [hread] at hdecode
  cases htaken : asReal reading with
  | error cause => simp [htaken, bind, Except.bind] at hdecode
  | ok taken =>
    obtain ⟨n, rfl⟩ : ∃ n, reading = .number n := by
      cases reading with
      | number n => exact ⟨n, rfl⟩
      | null | bool | text | list | record | broken => simp [asReal] at htaken
    rw [htaken] at hdecode
    cases left with
    | none => simp [bind, Except.bind, throw, throwThe, MonadExceptOf.throw] at hdecode
    | some left =>
      have hleft : left = [] := by
        cases left with
        | nil => rfl
        | cons c left =>
          have hc : numeric c = true :=
            hchars c ((suffix_of_readValue hchars hread).mem List.mem_cons_self)
          simp [skipBlanks_cons (starts_of_numeric hc), bind, Except.bind, throw, throwThe,
            MonadExceptOf.throw] at hdecode
      subst hleft
      have hvalue : taken = value := by
        simpa [skipBlanks, bind, Except.bind, pure, Except.pure] using hdecode
      refine ⟨n, fun level => ?_, by rw [htaken, hvalue]⟩
      rw [write, hwire]
      exact readsFrom_of_number hchars hread

end Number
end Judge.Json
