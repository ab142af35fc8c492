import Judge.Decimal.Real
import Judge.Proofs.Decimal.Binary64
import Judge.Proofs.Decimal.Integer

/-!
Numbers with a fixed number of places: they are written without blanks, and the units of the last
place are read back, so that only the rounding to that place is lost.
-/

namespace Judge.Decimal

open Binary64 (roundSteps roundSteps_mul_le ofSteps_eq_finite Representable Short)

variable {places units : Nat} {digits rest : List Char}

lemma isDigit_of_mem_padLeft {width : Nat} {c : Char} (h : ∀ c ∈ digits, c.isDigit = true)
    (hc : c ∈ padLeft width digits) : c.isDigit = true := by
  rcases List.mem_append.mp hc with hc | hc
  · rw [List.eq_of_mem_replicate hc]
    decide
  · exact h c hc

lemma length_padLeft (width : Nat) (digits : List Char) : width ≤ (padLeft width digits).length := by
  simp only [padLeft, List.length_append, List.length_replicate]
  omega

/-- Leading zeros do not change a number. -/
lemma ofDigitChars_padLeft (width : Nat) (digits : List Char) :
    Nat.ofDigitChars 10 (padLeft width digits) 0 = Nat.ofDigitChars 10 digits 0 := by
  rw [padLeft, Nat.ofDigitChars_append, Nat.ofDigitChars_replicate_zero, Nat.mul_zero]

/-- With at least one place the digits stand on both sides of the point. -/
lemma placePoint_eq (units : Nat) (h : 0 < places) :
    ∃ whole fraction, whole ≠ [] ∧ fraction.length = places ∧
      whole ++ fraction = padLeft (places + 1) (writeNat units) ∧
      placePoint places units = whole ++ '.' :: fraction := by
  have hlength := length_padLeft (places + 1) (writeNat units)
  refine ⟨_, _, ?_, ?_, List.take_append_drop _ _, by simp only [placePoint]; rw [if_neg (by omega)]⟩
  · rw [Ne, List.take_eq_nil_iff]
    rintro (h | h)
    · omega
    · simp [h] at hlength
  · rw [List.length_drop]
    omega

lemma takeDigits_append (h : ∀ c ∈ digits, c.isDigit = true) (hrest : ∀ c ∈ rest.head?,
    c.isDigit = false) (value count : Nat) : takeDigits value count (digits ++ rest) =
      (Nat.ofDigitChars 10 digits value, count + digits.length, rest) := by
  induction digits generalizing value count with
  | nil =>
    cases rest with
    | nil => rfl
    | cons c rest => simp [takeDigits, digit?, hrest c (by simp)]
  | cons c digits ih =>
    rw [List.cons_append, takeDigits, digit?, if_pos (h c (by simp))]
    simp only [ih (fun d hd => h d (by simp [hd])), Nat.ofDigitChars_cons, List.length_cons]
    congr 2
    omega

lemma toLower_of_isDigit {c : Char} (h : c.isDigit = true) : c.toLower = c := by
  have hrange := Char.isDigit_iff_toNat.mp h
  have hlower : ¬ (c.val ≥ 'A'.val ∧ c.val ≤ 'Z'.val) := by
    rintro ⟨hupper, -⟩
    have : 65 ≤ c.toNat := UInt32.le_iff_toNat_le.mp hupper
    have : c.toNat ≤ 57 := hrange.2
    omega
  exact dif_neg hlower

lemma readReal?_of_digit {c : Char} (h : c.isDigit = true) (text : List Char) :
    readReal? (c :: text) = readUnsigned false (c :: text) := by
  unfold readReal?
  split
  · next heq =>
    obtain ⟨rfl, -⟩ := List.cons.inj heq
    contradiction
  · next heq =>
    obtain ⟨rfl, -⟩ := List.cons.inj heq
    contradiction
  · rfl

/-- Digits, a point and digits are read as a number of units of the last place. -/
theorem readReal?_placePoint (h : 0 < places) : readReal? (placePoint places units) =
    some (Binary64.ofDecimal false units (0 - places)) := by
  obtain ⟨whole, fraction, hne, hlength, happend, hplace⟩ := placePoint_eq units h
  have hdigits : ∀ c ∈ whole ++ fraction, c.isDigit = true := by
    rw [happend]
    exact fun c => isDigit_of_mem_padLeft fun c => isDigit_of_mem_writeNat
  have hwhole : ∀ c ∈ whole, c.isDigit = true := fun c hc => hdigits c (by simp [hc])
  have hfraction : ∀ c ∈ fraction, c.isDigit = true := fun c hc => hdigits c (by simp [hc])
  have hvalue : Nat.ofDigitChars 10 fraction (Nat.ofDigitChars 10 whole 0) = units := by
    rw [← Nat.ofDigitChars_append, happend, ofDigitChars_padLeft, writeNat,
      Nat.ofDigitChars_ten_toDigits]
  have hfirst : takeDigits 0 0 (placePoint places units) =
      (Nat.ofDigitChars 10 whole 0, whole.length, '.' :: fraction) := by
    rw [hplace, takeDigits_append hwhole (by simp), Nat.zero_add]
  have hsecond : takeDigits (Nat.ofDigitChars 10 whole 0) 0 fraction = (units, places, []) := by
    conv_lhs => rw [← List.append_nil fraction]
    rw [takeDigits_append hfraction (by simp), hvalue, hlength, Nat.zero_add]
  obtain ⟨c, text, htext⟩ := List.exists_cons_of_ne_nil hne
  have hc : c.isDigit = true := hwhole c (by simp [htext])
  have hplace' : placePoint places units = c :: (text ++ '.' :: fraction) := by
    rw [hplace, htext, List.cons_append]
  rw [hplace', readReal?_of_digit hc]
  -- A digit in front rules out the names of the numbers that are not finite.
  have hlower : (c :: (text ++ '.' :: fraction)).map Char.toLower =
      c :: (text ++ '.' :: fraction).map Char.toLower := by
    rw [List.map_cons, toLower_of_isDigit hc]
  simp only [readUnsigned, hlower]
  rw [← hplace', hfirst]
  split
  · next heq =>
    obtain ⟨rfl, -⟩ := List.cons.inj heq
    contradiction
  · next heq =>
    obtain ⟨rfl, -⟩ := List.cons.inj heq
    contradiction
  · next heq =>
    obtain ⟨rfl, -⟩ := List.cons.inj heq
    contradiction
  · simp only [hsecond]
    rw [if_neg (by omega)]
    rfl

/-- How far numbers may go so that their units are far from an overflow. -/
def moderate : Nat := Nat.pow 2 126

lemma roundDiv_units_le {steps : Nat} (h : steps ≤ moderate * Binary64.one) :
    roundDiv (steps * Nat.pow 10 6) Binary64.one ≤ Nat.pow 2 160 := by
  have hone : 0 < Binary64.one := by decide +kernel
  have hnear : 2 * (roundDiv (steps * Nat.pow 10 6) Binary64.one * Binary64.one) ≤
      2 * (steps * Nat.pow 10 6) + Binary64.one := (roundDiv_near hone).1
  have hsteps := Nat.mul_le_mul_right (Nat.pow 10 6) h
  have hbound : moderate * Nat.pow 10 6 + 1 ≤ Nat.pow 2 160 := by decide +kernel
  generalize roundDiv (steps * Nat.pow 10 6) Binary64.one = units at *
  generalize Binary64.one = one at *
  have hunits : units * one ≤ (moderate * Nat.pow 10 6 + 1) * one := by
    have : moderate * one * Nat.pow 10 6 = moderate * Nat.pow 10 6 * one := by
      rw [Nat.mul_assoc, Nat.mul_comm one, ← Nat.mul_assoc]
    rw [Nat.add_mul, Nat.one_mul]
    omega
  exact Nat.le_trans (Nat.le_of_mul_le_mul_right hunits hone) hbound

/-- A moderate number of units is read as a finite number. -/
lemma ofDecimal_eq_finite (h : units ≤ Nat.pow 2 160) :
    ∃ steps, Binary64.ofDecimal false units (0 - (6 : Nat)) = .finite false steps := by
  have hlength : (Nat.toDigits 10 units).length ≤ 100 := by
    rw [Nat.length_toDigits_le_iff (by decide) (by decide)]
    exact Nat.lt_of_le_of_lt h (by decide +kernel)
  have hsmall : 2 * (units * Binary64.one) + Nat.pow 10 6 < Binary64.overflow * Nat.pow 10 6 := by
    have := Nat.mul_le_mul_right Binary64.one h
    have : 2 * (Nat.pow 2 160 * Binary64.one) + Nat.pow 10 6 < Binary64.overflow * Nat.pow 10 6 := by
      decide +kernel
    omega
  rw [Binary64.ofDecimal]
  split
  · exact ⟨0, rfl⟩
  have hexponent : (-(0 - ((6 : Nat) : Int))).toNat = 6 := by decide
  simp only
  rw [if_neg (by omega), if_neg (by omega), if_neg (by decide), hexponent]
  have hden : 0 < Nat.pow 10 6 := by decide
  refine ⟨Binary64.roundSteps (units * Binary64.one) (Nat.pow 10 6), ?_⟩
  apply Binary64.ofSteps_eq_finite hden
  exact hsmall

/-- A moderate number that is not negative is read back as such a number. -/
theorem readReal?_writeFixed {steps : Nat} (h : steps ≤ moderate * Binary64.one) :
    ∃ read, readReal? (writeFixed 6 (.finite false steps)) = some (.finite false read) := by
  obtain ⟨read, hread⟩ := ofDecimal_eq_finite (roundDiv_units_le h)
  refine ⟨read, ?_⟩
  rw [writeFixed, if_neg Bool.false_ne_true, List.nil_append, readReal?_placePoint (by decide),
    hread]

/-- A number above the moderate ones with few significant bits is whole. -/
lemma dvd_of_short {steps : Nat} (hshort : Short steps) (h : moderate * Binary64.one < steps) :
    Binary64.one ∣ steps := by
  obtain ⟨significand, hle, shift, rfl⟩ := hshort
  obtain ⟨k, hk⟩ : ∃ k, Binary64.one = 2 ^ k := ⟨1074, by decide +kernel⟩
  have hlarge : 2 ^ 53 ≤ moderate := by decide +kernel
  have hshift : k ≤ shift := by
    by_contra hlt
    have hpow : 2 ^ shift ≤ Binary64.one := hk ▸ Nat.pow_le_pow_right (by decide) (by omega)
    exact absurd (Nat.mul_le_mul (Nat.le_trans hle hlarge) hpow) (Nat.not_le_of_lt h)
  rw [hk]
  exact Nat.dvd_trans (Nat.pow_dvd_pow 2 hshift) (Nat.dvd_mul_left _ _)

/-- Such a number is written exactly and read back as it is. -/
lemma readReal?_writeFixed_of_dvd {whole : Nat} (hshort : Short (whole * Binary64.one))
    (hlt : whole * Binary64.one < Binary64.overflow) :
    readReal? (writeFixed 6 (.finite false (whole * Binary64.one))) =
      some (.finite false (whole * Binary64.one)) := by
  have hone : 0 < Binary64.one := by decide +kernel
  have hten : 0 < Nat.pow 10 6 := by decide
  have hunits : roundDiv (whole * Binary64.one * Nat.pow 10 6) Binary64.one =
      whole * Nat.pow 10 6 := by
    rw [Nat.mul_right_comm]
    exact Binary64.roundDiv_mul hone
  have hround : roundSteps (whole * Nat.pow 10 6 * Binary64.one) (Nat.pow 10 6) =
      whole * Binary64.one := by
    rw [Nat.mul_right_comm]
    exact Binary64.roundSteps_mul_self hshort hten
  have hlength : (Nat.toDigits 10 (whole * Nat.pow 10 6)).length ≤ 326 := by
    obtain ⟨width, hwidth, hbound⟩ : ∃ width ≤ 326,
        Binary64.overflow * Nat.pow 10 6 ≤ 10 ^ width * Binary64.one :=
      ⟨326, Nat.le_refl _, by decide +kernel⟩
    have hproduct := Nat.lt_of_lt_of_le (Nat.mul_lt_mul_of_pos_right hlt hten) hbound
    rw [Nat.mul_right_comm] at hproduct
    have hdigits : (Nat.toDigits 10 (whole * Nat.pow 10 6)).length ≤ width := by
      rw [Nat.length_toDigits_le_iff (by decide) (by
        by_contra hzero
        obtain rfl : width = 0 := by omega
        exact absurd hbound (by decide +kernel))]
      exact Nat.lt_of_mul_lt_mul_right hproduct
    exact Nat.le_trans hdigits hwidth
  have hread : Binary64.ofDecimal false (whole * Nat.pow 10 6) (0 - (6 : Nat)) =
      .finite false (whole * Binary64.one) := by
    rw [Binary64.ofDecimal]
    split
    · next hzero =>
      have : whole = 0 := by
        rcases Nat.mul_eq_zero.mp hzero with h | h
        · exact h
        · exact absurd h (Nat.ne_of_gt hten)
      rw [this, Nat.zero_mul]
    have hexponent : (-(0 - ((6 : Nat) : Int))).toNat = 6 := by decide
    have hdigits : 1 ≤ (Nat.toDigits 10 (whole * Nat.pow 10 6)).length :=
      List.length_pos_of_ne_nil Nat.toDigits_ne_nil
    simp only
    rw [if_neg (by omega), if_neg (by omega), if_neg (by decide), hexponent, Binary64.ofSteps,
      hround, if_neg (Nat.not_le_of_lt hlt)]
  rw [writeFixed, if_neg Bool.false_ne_true, List.nil_append, hunits,
    readReal?_placePoint (by decide), hread]

/-- Every number that 64 bits hold, apart from negative ones, is read back as such a number. -/
theorem exists_readReal?_writeFixed {steps : Nat} (h : Representable (.finite false steps)) :
    ∃ read, readReal? (writeFixed 6 (.finite false steps)) = some (.finite false read) := by
  have hshort := h.short false steps rfl
  rcases Nat.lt_or_ge (moderate * Binary64.one) steps with hlarge | hle
  · obtain ⟨whole, hwhole⟩ := dvd_of_short hshort hlarge
    have hlt := h.bounded false steps rfl
    rw [Nat.mul_comm] at hwhole
    rw [hwhole] at hshort hlt ⊢
    exact ⟨_, readReal?_writeFixed_of_dvd hshort hlt⟩
  · exact readReal?_writeFixed hle

lemma representable_of_readUnsigned {negative : Bool} {text : List Char} {number : Binary64}
    (h : readUnsigned negative text = some number) : Representable number := by
  unfold readUnsigned at h
  split at h
  · exact Option.some.inj h ▸ Binary64.representable_infinite negative
  · exact Option.some.inj h ▸ Binary64.representable_infinite negative
  · exact Option.some.inj h ▸ Binary64.representable_nan
  · have hfinish : ∀ {count value places : Nat} {rest : List Char},
        (if count = 0 then none else (readExponent rest).map fun exponent =>
          Binary64.ofDecimal negative value (exponent - places)) = some number →
        Representable number := by
      intro count value places rest h
      split at h
      · contradiction
      · obtain ⟨exponent, -, rfl⟩ := Option.map_eq_some_iff.mp h
        exact Binary64.representable_ofDecimal ..
    simp only at h
    split at h
    · exact hfinish h
    · exact hfinish h

/-- A number that was read is one that 64 bits hold. -/
theorem representable_of_readReal? {text : List Char} {number : Binary64}
    (h : readReal? text = some number) : Representable number := by
  unfold readReal? at h
  split at h
  · exact representable_of_readUnsigned h
  · exact representable_of_readUnsigned h
  · exact representable_of_readUnsigned h

/-- A whole number of up to 64 bits divided by 1024 is moderate. -/
theorem div_1024_eq_finite {n : Int} (h : 0 ≤ n) (hle : n ≤ int64.greatest) :
    ∃ steps ≤ moderate * Binary64.one,
      (Binary64.ofInt n).div (.ofInt 1024) = .finite false steps := by
  have hone : 0 < Binary64.one := by decide +kernel
  have hlarge : 2 ^ 70 * Binary64.one ≤ Binary64.overflow := by decide +kernel
  have hdivisor : Binary64.ofInt 1024 = .finite false (1024 * Binary64.one) := by decide +kernel
  have hmoderate : 2 ^ 63 ≤ moderate := by decide +kernel
  have hn : n.natAbs ≤ 2 ^ 63 := by
    simp only [int64] at hle
    omega
  have hproduct := Nat.mul_le_mul_right Binary64.one hn
  have hround := roundSteps_mul_le (n.natAbs * Binary64.one) Nat.one_pos
  have hfirst : Binary64.ofInt n = .finite false (roundSteps (n.natAbs * Binary64.one) 1) := by
    rw [Binary64.ofInt, decide_eq_false (by omega)]
    apply ofSteps_eq_finite Nat.one_pos
    omega
  rw [hdivisor, hfirst]
  generalize roundSteps (n.natAbs * Binary64.one) 1 = a at *
  have hden : 0 < 1024 * Binary64.one := by omega
  have hsmall : 2 * (a * Binary64.one) + 1024 * Binary64.one <
      Binary64.overflow * (1024 * Binary64.one) := by
    have hlt : 2 * a + 1024 < Binary64.overflow * 1024 := by omega
    have := Nat.mul_lt_mul_of_pos_right hlt hone
    rwa [Nat.add_mul, Nat.mul_assoc, Nat.mul_assoc] at this
  refine ⟨roundSteps (a * Binary64.one) (1024 * Binary64.one), ?_, ?_⟩
  · have hle := roundSteps_mul_le (a * Binary64.one) hden
    generalize roundSteps (a * Binary64.one) (1024 * Binary64.one) = s at *
    have hcancel : s * 1024 ≤ 2 * a + 1024 := by
      apply Nat.le_of_mul_le_mul_right ?_ hone
      rwa [Nat.add_mul, Nat.mul_assoc, Nat.mul_assoc]
    have := Nat.mul_le_mul_right Binary64.one hmoderate
    omega
  · rw [Binary64.div, if_neg (by omega)]
    exact ofSteps_eq_finite hden hsmall

lemma mem_placePoint {c : Char} (h : c ∈ placePoint places units) : c.isDigit = true ∨ c = '.' := by
  have hdigits : ∀ c ∈ padLeft (places + 1) (writeNat units), c.isDigit = true :=
    fun c => isDigit_of_mem_padLeft fun c => isDigit_of_mem_writeNat
  simp only [placePoint] at h
  rcases List.mem_append.mp h with h | h
  · exact .inl (hdigits c (List.mem_of_mem_take h))
  split at h
  · simp at h
  · rcases List.mem_cons.mp h with rfl | h
    · exact .inr rfl
    · exact .inl (hdigits c (List.mem_of_mem_drop h))

theorem not_isBlank_of_mem_writeFixed {number : Binary64} {c : Char}
    (h : c ∈ writeFixed places number) : Text.isBlank c = false := by
  have hsign : ∀ negative : Bool, c ∈ (if negative then ['-'] else []) → Text.isBlank c = false := by
    intro negative hc
    cases negative with
    | false => simp at hc
    | true =>
      obtain rfl : c = '-' := by simpa using hc
      decide
  cases number with
  | nan =>
    simp only [writeFixed, List.mem_cons, List.not_mem_nil, or_false] at h
    rcases h with rfl | rfl | rfl <;> decide
  | infinite negative =>
    rcases List.mem_append.mp h with h | h
    · exact hsign negative h
    · simp only [List.mem_cons, List.not_mem_nil, or_false] at h
      rcases h with rfl | rfl | rfl <;> decide
  | finite negative steps =>
    rcases List.mem_append.mp h with h | h
    · exact hsign negative h
    · rcases mem_placePoint h with h | rfl
      · exact not_isBlank_of_isDigit h
      · decide

end Judge.Decimal
