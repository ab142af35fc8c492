import Mathlib.Tactic.Lemma
import Judge.Decimal.Integer
import Judge.Proofs.Basic
import Judge.Proofs.Text.Blank

/-!
Whole numbers are read back as they were written, if they fit, and they are written without blanks
and separators.
-/

namespace Judge.Decimal

variable {bounds : Bounds} {limit value : Nat} {excess : IntegerError} {digits : List Char}

lemma Bounds.contains_iff {n : Int} :
    bounds.contains n = true ↔ bounds.least ≤ n ∧ n ≤ bounds.greatest := by
  simp [contains]

lemma le_ofDigitChars (digits : List Char) (value : Nat) :
    value ≤ Nat.ofDigitChars 10 digits value := by
  induction digits generalizing value with
  | nil => simp
  | cons c digits ih =>
    rw [Nat.ofDigitChars_cons]
    exact Nat.le_trans (by omega) (ih _)

/-- Digits are read as the number that they write, if it is within the limit. -/
theorem readDigits_eq_ok (h : ∀ c ∈ digits, c.isDigit = true)
    (hle : Nat.ofDigitChars 10 digits value ≤ limit) :
    readDigits limit excess value digits = .ok (Nat.ofDigitChars 10 digits value) := by
  induction digits generalizing value with
  | nil => rfl
  | cons c digits ih =>
    rw [Nat.ofDigitChars_cons] at hle ⊢
    have hdigit : digit? c = some (c.toNat - 48) := by rw [digit?, if_pos (h c (by simp))]
    have hnext := Nat.le_trans (le_ofDigitChars digits _) hle
    rw [readDigits, hdigit]
    simp only
    rw [if_neg (by simpa using hnext)]
    exact ih (fun d hd => h d (by simp [hd])) hle

lemma isDigit_of_mem_writeNat {n : Nat} {c : Char} (h : c ∈ writeNat n) : c.isDigit = true :=
  Nat.isDigit_of_mem_toDigits (by decide) (by decide) h

lemma writeNat_ne_nil (n : Nat) : writeNat n ≠ [] := Nat.toDigits_ne_nil

lemma ofDigitChars_writeNat (n : Nat) : Nat.ofDigitChars 10 (writeNat n) 0 = n :=
  Nat.ofDigitChars_ten_toDigits

/-- A number other than zero has no zero in front. -/
lemma head?_writeNat {n : Nat} (h : 0 < n) : (writeNat n).head? ≠ some '0' := by
  induction n using Nat.strongRecOn with
  | ind n ih =>
    rcases Nat.lt_or_ge n 10 with hlt | hge
    · rw [writeNat, Nat.toDigits_of_lt_base hlt]
      have hdigit : ∀ m < 10, 0 < m → [Nat.digitChar m].head? ≠ some '0' := by decide
      exact hdigit n hlt h
    · rw [writeNat, Nat.toDigits_of_base_le (by decide) hge,
        List.head?_append_of_ne_nil _ Nat.toDigits_ne_nil]
      exact ih (n / 10) (by omega) (by omega)

lemma readDigits_writeNat {n : Nat} (h : n ≤ limit) :
    readDigits limit excess 0 (writeNat n) = .ok n := by
  rw [readDigits_eq_ok (fun _ => isDigit_of_mem_writeNat), writeNat, Nat.ofDigitChars_ten_toDigits]
  rwa [writeNat, Nat.ofDigitChars_ten_toDigits]

lemma readInteger_of_unsigned {text : List Char} (hne : text ≠ [])
    (hsign : ∀ c ∈ text.head?, c ≠ '+' ∧ c ≠ '-') :
    readInteger bounds text =
      Except.map (fun n : Nat => (n : Int)) (readDigits bounds.greatest.toNat .tooLarge 0 text) := by
  unfold readInteger
  split
  · contradiction
  · exact absurd rfl (hsign '+' rfl).1
  · exact absurd rfl (hsign '-' rfl).2
  · exact absurd rfl (hsign '+' rfl).1
  · exact absurd rfl (hsign '-' rfl).2
  · cases readDigits bounds.greatest.toNat .tooLarge 0 text <;> rfl

lemma readInteger_of_digits (hne : digits ≠ []) (h : ∀ c ∈ digits, c.isDigit = true) :
    readInteger bounds digits =
      Except.map (fun n : Nat => (n : Int))
        (readDigits bounds.greatest.toNat .tooLarge 0 digits) := by
  refine readInteger_of_unsigned hne fun c hc => ?_
  have hdigit := h c (List.mem_of_mem_head? hc)
  constructor <;> rintro rfl <;> exact absurd hdigit (by decide)

lemma readInteger_of_plus (hne : digits ≠ []) :
    readInteger bounds ('+' :: digits) =
      Except.map (fun n : Nat => (n : Int))
        (readDigits bounds.greatest.toNat .tooLarge 0 digits) := by
  cases digits with
  | nil => contradiction
  | cons c digits =>
    rw [readInteger]
    · cases readDigits bounds.greatest.toNat .tooLarge 0 (c :: digits) <;> rfl
    · simp

lemma readInteger_of_minus (hne : digits ≠ []) (hneg : bounds.least < 0) :
    readInteger bounds ('-' :: digits) =
      Except.map (fun n : Nat => -(n : Int)) (readDigits bounds.least.natAbs .tooSmall 0 digits) := by
  cases digits with
  | nil => contradiction
  | cons c digits =>
    rw [readInteger, if_pos hneg]
    · cases readDigits bounds.least.natAbs .tooSmall 0 (c :: digits) <;> rfl
    · simp

/-- A minus sign is read only if a number can be negative. -/
lemma least_of_readInteger {rest : List Char} {n : Int}
    (h : readInteger bounds ('-' :: rest) = .ok n) : bounds.least < 0 := by
  cases rest with
  | nil => contradiction
  | cons c rest =>
    rw [readInteger] at h
    · by_contra hleast
      rw [if_neg hleast] at h
      contradiction
    · simp

/-- A number within the bounds is read back. -/
theorem readInteger?_writeInt {n : Int} (h : bounds.contains n = true) :
    readInteger? bounds (writeInt n) = some n := by
  obtain ⟨hleast, hgreatest⟩ := Bounds.contains_iff.mp h
  rw [readInteger?, writeInt]
  split
  · next hneg =>
    have hvalue : -(n.natAbs : Int) = n := by omega
    rw [readInteger_of_minus (writeNat_ne_nil _) (by omega), readDigits_writeNat (by omega)]
    simp only [Except.map, Except.toOption, hvalue]
  · next hnonneg =>
    have hvalue : (n.natAbs : Int) = n := by omega
    rw [readInteger_of_digits (writeNat_ne_nil _) fun _ => isDigit_of_mem_writeNat,
      readDigits_writeNat (by omega)]
    simp only [Except.map, Except.toOption, hvalue]

theorem writeInt_inj {a b : Int} (h : writeInt a = writeInt b) : a = b := by
  have hread := congrArg (readInteger? ⟨min a b, max a b⟩) h
  have hcontains : ∀ n, min a b ≤ n → n ≤ max a b →
      Bounds.contains ⟨min a b, max a b⟩ n = true := by
    intro n hleast hgreatest
    simp only [Bounds.contains, Bool.and_eq_true, decide_eq_true_eq]
    exact ⟨hleast, hgreatest⟩
  rw [readInteger?_writeInt (hcontains a (by omega) (by omega)),
    readInteger?_writeInt (hcontains b (by omega) (by omega))] at hread
  exact Option.some.inj hread

/-- Digits are never read as a number above the limit. -/
lemma le_of_readDigits {n : Nat} (hvalue : value ≤ limit)
    (h : readDigits limit excess value digits = .ok n) : n ≤ limit := by
  induction digits generalizing value with
  | nil => exact Except.ok.inj h ▸ hvalue
  | cons c digits ih =>
    rw [readDigits] at h
    cases hdigit : digit? c with
    | none => simp [hdigit] at h
    | some d =>
      simp only [hdigit] at h
      split at h
      · contradiction
      · exact ih (by omega) h

/-- Only digits are read, as the number that they write. -/
lemma of_readDigits {n : Nat} (h : readDigits limit excess value digits = .ok n) :
    (∀ c ∈ digits, c.isDigit = true) ∧ n = Nat.ofDigitChars 10 digits value := by
  induction digits generalizing value with
  | nil => exact ⟨by simp, (Except.ok.inj h).symm⟩
  | cons c digits ih =>
    rw [readDigits, digit?] at h
    by_cases hdigit : c.isDigit = true
    · simp only [if_pos hdigit] at h
      split at h
      · contradiction
      · obtain ⟨hdigits, hn⟩ := ih h
        exact ⟨by simpa [hdigit] using hdigits, by rw [hn, Nat.ofDigitChars_cons]; rfl⟩
    · simp [hdigit] at h

lemma readInteger?_eq_some_iff_ok {text : List Char} {n : Int} :
    readInteger? bounds text = some n ↔ readInteger bounds text = .ok n := by
  rw [readInteger?]
  cases readInteger bounds text <;> simp [Except.toOption]

/-- A text that writes a whole number: an optional sign and digits. -/
inductive Writes : List Char → Int → Prop
  | plain {digits : List Char} (hne : digits ≠ []) (h : ∀ c ∈ digits, c.isDigit = true) :
    Writes digits (Nat.ofDigitChars 10 digits 0)
  | plus {digits : List Char} (hne : digits ≠ []) (h : ∀ c ∈ digits, c.isDigit = true) :
    Writes ('+' :: digits) (Nat.ofDigitChars 10 digits 0)
  | minus {digits : List Char} (hne : digits ≠ []) (h : ∀ c ∈ digits, c.isDigit = true) :
    Writes ('-' :: digits) (-(Nat.ofDigitChars 10 digits 0))

/-- What is read lies within the bounds, if zero does. -/
theorem contains_of_readInteger? (hbounds : bounds.contains 0 = true) {text : List Char} {n : Int}
    (h : readInteger? bounds text = some n) : bounds.contains n = true := by
  rw [Bounds.contains_iff] at hbounds ⊢
  have hpositive : ∀ {digits : List Char}, (Except.map (fun n : Int => n) (do
      let value ← readDigits bounds.greatest.toNat .tooLarge 0 digits
      pure (value : Int))).toOption = some n → bounds.least ≤ n ∧ n ≤ bounds.greatest := by
    intro digits h
    cases hread : readDigits bounds.greatest.toNat .tooLarge 0 digits with
    | error cause =>
      rw [hread] at h
      contradiction
    | ok value =>
      rw [hread] at h
      have hle := le_of_readDigits (Nat.zero_le _) hread
      obtain rfl : (value : Int) = n := Option.some.inj h
      omega
  rw [readInteger?] at h
  unfold readInteger at h
  split at h
  · contradiction
  · contradiction
  · contradiction
  · exact hpositive h
  · next rest _ =>
    split at h
    · cases hread : readDigits bounds.least.natAbs .tooSmall 0 rest with
      | error cause =>
        rw [hread] at h
        contradiction
      | ok value =>
        rw [hread] at h
        have hle := le_of_readDigits (Nat.zero_le _) hread
        obtain rfl : -(value : Int) = n := Option.some.inj h
        omega
    · contradiction
  · exact hpositive h

/-- Only texts that write a number are read, as that number. -/
lemma writes_of_readInteger {text : List Char} {n : Int} (h : readInteger bounds text = .ok n) :
    Writes text n := by
  rcases text with _ | ⟨c, rest⟩
  · contradiction
  by_cases hplus : c = '+'
  · subst hplus
    have hne : rest ≠ [] := by rintro rfl; contradiction
    rw [readInteger_of_plus hne] at h
    obtain ⟨value, hread, rfl⟩ := exists_of_map_eq_ok h
    obtain ⟨hdigits, rfl⟩ := of_readDigits hread
    exact .plus hne hdigits
  by_cases hminus : c = '-'
  · subst hminus
    have hne : rest ≠ [] := by rintro rfl; contradiction
    rw [readInteger_of_minus hne (least_of_readInteger h)] at h
    obtain ⟨value, hread, rfl⟩ := exists_of_map_eq_ok h
    obtain ⟨hdigits, rfl⟩ := of_readDigits hread
    exact .minus hne hdigits
  · rw [readInteger_of_unsigned (by simp) (by simp [hplus, hminus])] at h
    obtain ⟨value, hread, rfl⟩ := exists_of_map_eq_ok h
    obtain ⟨hdigits, rfl⟩ := of_readDigits hread
    exact .plain (by simp) hdigits

/-- A text that writes a number within the bounds is read, unless it has a minus sign that the bounds
do not allow. -/
lemma readInteger_of_writes {text : List Char} {n : Int} (h : Writes text n)
    (hcontains : bounds.contains n = true) (hsign : text.head? = some '-' → bounds.least < 0) :
    readInteger bounds text = .ok n := by
  obtain ⟨hlow, hhigh⟩ := Bounds.contains_iff.mp hcontains
  cases h with
  | plain hne hdigits =>
    rw [readInteger_of_digits hne hdigits, readDigits_eq_ok hdigits (by omega)]
    rfl
  | plus hne hdigits =>
    rw [readInteger_of_plus hne, readDigits_eq_ok hdigits (by omega)]
    rfl
  | minus hne hdigits =>
    rw [readInteger_of_minus hne (hsign rfl), readDigits_eq_ok hdigits (by omega)]
    rfl

/-- Exactly the texts that write a number within the bounds are read, where a minus sign counts only
if a number can be negative. -/
lemma readInteger_eq_ok_iff_of_le (hleast : bounds.least ≤ 0) (hgreatest : 0 ≤ bounds.greatest)
    {text : List Char} {n : Int} :
    readInteger bounds text = .ok n ↔ Writes text n ∧ bounds.contains n = true ∧
      (text.head? = some '-' → bounds.least < 0) := by
  constructor
  · intro h
    have hzero : bounds.contains 0 = true := Bounds.contains_iff.mpr ⟨hleast, hgreatest⟩
    have hread := readInteger?_eq_some_iff_ok.mpr h
    refine ⟨writes_of_readInteger h, contains_of_readInteger? hzero hread, fun hhead => ?_⟩
    obtain ⟨rest, rfl⟩ := List.head?_eq_some_iff.mp hhead
    exact least_of_readInteger h
  · rintro ⟨hwrites, hcontains, hsign⟩
    exact readInteger_of_writes hwrites hcontains hsign

/-- Within bounds on both sides of zero exactly the texts that write a number are read. -/
theorem readInteger_eq_ok_iff (hleast : bounds.least < 0) (hgreatest : 0 ≤ bounds.greatest)
    {text : List Char} {n : Int} :
    readInteger bounds text = .ok n ↔ Writes text n ∧ bounds.contains n = true := by
  rw [readInteger_eq_ok_iff_of_le (Int.le_of_lt hleast) hgreatest]
  simp [hleast]

lemma readInteger?_eq_some_iff (hleast : bounds.least < 0) (hgreatest : 0 ≤ bounds.greatest)
    {text : List Char} {n : Int} :
    readInteger? bounds text = some n ↔ Writes text n ∧ bounds.contains n = true := by
  rw [← readInteger_eq_ok_iff hleast hgreatest, readInteger?_eq_some_iff_ok]

/-- Wrapping gives a number of 32 bits. -/
lemma contains_wrap32 (n : Int) : int32.contains (wrap32 n) = true := by
  have hlow : -(4294967296 / 2 : Int) ≤ n.bmod 4294967296 := Int.le_bmod (by decide)
  have hhigh : n.bmod 4294967296 < (4294967296 + 1) / 2 := Int.bmod_lt (by decide)
  rw [Bounds.contains_iff]
  simp only [int32, wrap32]
  omega

/-- Wrapping leaves a number of 32 bits alone. -/
lemma wrap32_of_contains {n : Int} (h : int32.contains n = true) : wrap32 n = n := by
  have hbounds := Bounds.contains_iff.mp h
  simp only [int32] at hbounds
  exact Int.bmod_eq_of_le_mul_two (by omega) (by omega)

lemma isDigit_of_mem_writeInt {n : Int} (hn : 0 ≤ n) {c : Char} (h : c ∈ writeInt n) :
    c.isDigit = true := by
  rw [writeInt, if_neg (by omega)] at h
  exact isDigit_of_mem_writeNat h

lemma mem_writeInt {n : Int} {c : Char} (h : c ∈ writeInt n) : c.isDigit = true ∨ c = '-' := by
  rw [writeInt] at h
  split at h
  · rcases List.mem_cons.mp h with rfl | h
    · exact .inr rfl
    · exact .inl (isDigit_of_mem_writeNat h)
  · exact .inl (isDigit_of_mem_writeNat h)

lemma writeInt_ne_nil (n : Int) : writeInt n ≠ [] := by
  rw [writeInt]
  split
  · simp
  · exact writeNat_ne_nil _

lemma not_isBlank_of_isDigit {c : Char} (h : c.isDigit = true) : Text.isBlank c = false := by
  have hrange : 48 ≤ c.toNat ∧ c.toNat ≤ 57 := Char.isDigit_iff_toNat.mp h
  rw [Bool.eq_false_iff]
  intro hblank
  simp only [Text.isBlank, Bool.or_eq_true, Bool.and_eq_true, beq_iff_eq, decide_eq_true_eq]
    at hblank
  omega

theorem not_isBlank_of_mem_writeInt {n : Int} {c : Char} (h : c ∈ writeInt n) :
    Text.isBlank c = false := by
  rcases mem_writeInt h with h | rfl
  · exact not_isBlank_of_isDigit h
  · decide

/-- A number is shown as it is written. -/
lemma toList_toString (n : Int) : (toString n).toList = writeInt n := by
  cases n with
  | ofNat n => exact String.toList_ofList
  | negSucc n =>
    have hneg : Int.negSucc n < 0 := Int.negSucc_lt_zero n
    rw [writeInt, if_pos hneg]
    exact (String.toList_append).trans (congrArg _ String.toList_ofList)

lemma toString_inj {a b : Int} (h : toString a = toString b) : a = b :=
  writeInt_inj (by rw [← toList_toString, ← toList_toString, h])

/-- A text that writes a number has no blanks and is not empty. -/
lemma Writes.not_isBlank {text : List Char} {n : Int} (h : Writes text n) :
    text ≠ [] ∧ ∀ c ∈ text, Text.isBlank c = false := by
  cases h with
  | plain hne hdigits => exact ⟨hne, fun c hc => not_isBlank_of_isDigit (hdigits c hc)⟩
  | plus hne hdigits | minus hne hdigits =>
    refine ⟨by simp, List.forall_mem_cons.mpr ⟨by decide, fun c hc => ?_⟩⟩
    exact not_isBlank_of_isDigit (hdigits c hc)

/-- Numbers of 64 bits have at most twenty characters. -/
lemma length_writeInt_le {n : Int} (h : int64.contains n = true) : (writeInt n).length ≤ 20 := by
  obtain ⟨hleast, hgreatest⟩ := Bounds.contains_iff.mp h
  have hdigits : (writeNat n.natAbs).length ≤ 19 := by
    rw [writeNat, Nat.length_toDigits_le_iff (by decide) (by decide)]
    simp only [int64] at hleast hgreatest
    omega
  rw [writeInt]
  split
  · exact Nat.succ_le_succ hdigits
  · omega

end Judge.Decimal
