import Mathlib.Tactic.Lemma
import Mathlib.Tactic.Ring
import Judge.Decimal.Binary64

/-!
What rounding gives: the rounded number of steps is at most twice the exact one and a step more, so
what is far below the overflow bound is a finite number; it has at most 53 significant bits, and a
number that has no more is left as it is.
-/

namespace Judge.Decimal.Binary64

variable {den : Nat}

/-- Rounding at most doubles a number, apart from one step. -/
theorem roundSteps_mul_le (num : Nat) (h : 0 < den) : roundSteps num den * den ≤ 2 * num + den := by
  have hpow : Nat.pow 2 ((num / den).log2 - 52) * den ≤ num + den := by
    by_cases hq : num / den = 0
    · rw [hq]
      change 1 * den ≤ _
      omega
    · have hlog : 2 ^ ((num / den).log2 - 52) ≤ num / den :=
        Nat.le_trans (Nat.pow_le_pow_right (by decide) (Nat.sub_le _ _)) (Nat.log2_self_le hq)
      have := Nat.mul_le_mul_right den hlog
      have := Nat.div_mul_le_self num den
      change 2 ^ _ * den ≤ _
      omega
  have hpos : 0 < den * Nat.pow 2 ((num / den).log2 - 52) :=
    Nat.mul_pos h (Nat.pow_pos (by decide))
  have hnear : 2 * (roundDiv num _ * _) ≤ 2 * num + _ := (roundDiv_near hpos).1
  simp only [roundSteps]
  generalize Nat.pow 2 ((num / den).log2 - 52) = p at *
  generalize roundDiv num (den * p) = r at *
  have hle : r * (den * p) = r * p * den := by rw [Nat.mul_assoc, Nat.mul_comm den p]
  have hcomm : den * p = p * den := Nat.mul_comm ..
  rw [hle, hcomm] at hnear
  omega

/-- A quotient that is small enough is a finite number. -/
theorem ofSteps_eq_finite {negative : Bool} {num : Nat} (h : 0 < den)
    (hsmall : 2 * num + den < overflow * den) :
    ofSteps negative num den = .finite negative (roundSteps num den) := by
  have hlt : roundSteps num den < overflow := by
    have := Nat.lt_of_le_of_lt (roundSteps_mul_le num h) hsmall
    exact Nat.lt_of_mul_lt_mul_right this
  simp only [ofSteps]
  rw [if_neg (by omega)]

/-- Rounding keeps the sign. -/
lemma ofSteps_cases (negative : Bool) (num den : Nat) :
    ofSteps negative num den = .infinite negative ∨
      ofSteps negative num den = .finite negative (roundSteps num den) := by
  rcases Nat.lt_or_ge (roundSteps num den) overflow with hlt | hle
  · exact .inr (by rw [ofSteps, if_neg (Nat.not_le_of_lt hlt)])
  · exact .inl (by rw [ofSteps, if_pos hle])

/-- The nearest whole number to a product of numbers without a minus sign is not negative. -/
lemma round?_mul_nonneg {a b : Nat} {n : Int}
    (h : (mul (.finite false a) (.finite false b)).round? = some n) : 0 ≤ n := by
  have hround : ∀ {steps : Nat}, (finite false steps).round? = some n → 0 ≤ n := by
    intro steps h
    simp only [round?, Bool.false_eq_true, if_false, Option.some.injEq] at h
    rw [← h]
    exact Int.natCast_nonneg _
  rw [mul, Bool.false_xor] at h
  rcases ofSteps_cases false (a * b) one with hinfinite | hfinite
  · simp [hinfinite, round?] at h
  · rw [hfinite] at h
    exact hround h

/-- Numbers of steps with at most 53 significant bits. -/
def Short (steps : Nat) : Prop :=
  ∃ significand ≤ Nat.pow 2 53, ∃ shift, steps = significand * Nat.pow 2 shift

/-- A number that 64 bits hold: a finite one has few significant bits and does not overflow. -/
structure Representable (number : Binary64) : Prop where
  short : ∀ negative steps, number = .finite negative steps → Short steps
  bounded : ∀ negative steps, number = .finite negative steps → steps < overflow

lemma representable_finite {negative : Bool} {steps : Nat} (hshort : Short steps)
    (hlt : steps < overflow) : Representable (.finite negative steps) := by
  constructor
  · intro _ _ h
    obtain ⟨-, rfl⟩ := Binary64.finite.inj h
    exact hshort
  · intro _ _ h
    obtain ⟨-, rfl⟩ := Binary64.finite.inj h
    exact hlt

lemma representable_infinite (negative : Bool) : Representable (.infinite negative) := by
  constructor <;> exact fun _ _ h => Binary64.noConfusion h

lemma representable_nan : Representable .nan := by
  constructor <;> exact fun _ _ h => Binary64.noConfusion h

lemma roundDiv_le (num den : Nat) : roundDiv num den ≤ num / den + 1 := by
  simp only [roundDiv]
  split <;> omega

/-- Rounding leaves at most 53 significant bits. -/
theorem short_roundSteps (num den : Nat) : Short (roundSteps num den) := by
  refine ⟨_, ?_, _, rfl⟩
  have hlog : num / den < 2 ^ ((num / den).log2 + 1) := Nat.lt_log2_self
  have hle : (num / den).log2 + 1 ≤ 53 + ((num / den).log2 - 52) := by omega
  have hlt : num / den < 2 ^ 53 * 2 ^ ((num / den).log2 - 52) := by
    rw [← Nat.pow_add]
    exact Nat.lt_of_lt_of_le hlog (Nat.pow_le_pow_right (by decide) hle)
  have hdiv : num / (den * Nat.pow 2 ((num / den).log2 - 52)) < 2 ^ 53 := by
    rw [← Nat.div_div_eq_div_mul]
    exact Nat.div_lt_of_lt_mul (by rwa [Nat.mul_comm] at hlt)
  exact Nat.le_trans (roundDiv_le _ _) hdiv

theorem representable_ofSteps (negative : Bool) (num den : Nat) :
    Representable (ofSteps negative num den) := by
  rcases Nat.lt_or_ge (roundSteps num den) overflow with hlt | hle
  · rw [ofSteps, if_neg (Nat.not_le_of_lt hlt)]
    exact representable_finite (short_roundSteps num den) hlt
  · rw [ofSteps, if_pos hle]
    exact representable_infinite negative

lemma representable_ofInt (n : Int) : Representable (ofInt n) := by
  rw [ofInt]
  exact representable_ofSteps ..

theorem representable_ofDecimal (negative : Bool) (significand : Nat) (exponent : Int) :
    Representable (ofDecimal negative significand exponent) := by
  have hzero : Representable (.finite negative 0) :=
    representable_finite ⟨0, Nat.zero_le _, 0, rfl⟩ (by decide +kernel)
  rw [ofDecimal]
  split
  · exact hzero
  simp only
  split
  · exact representable_infinite negative
  split
  · exact hzero
  split
  · exact representable_ofSteps ..
  · exact representable_ofSteps ..

lemma roundDiv_mul {m : Nat} (h : 0 < den) : roundDiv (m * den) den = m := by
  simp only [roundDiv, Nat.mul_div_cancel m h, Nat.mul_mod_left]
  rw [if_neg (by omega)]

lemma Short.pow_dvd {steps : Nat} (h : Short steps) : 2 ^ (steps.log2 - 52) ∣ steps := by
  obtain ⟨significand, hle, shift, rfl⟩ := h
  change significand ≤ 2 ^ 53 at hle
  change 2 ^ ((significand * 2 ^ shift).log2 - 52) ∣ significand * 2 ^ shift
  rcases Nat.lt_or_eq_of_le hle with hlt | rfl
  · by_cases hzero : significand = 0
    · simp [hzero]
    have hpos : significand * 2 ^ shift ≠ 0 := by
      have := Nat.two_pow_pos shift
      exact Nat.mul_ne_zero hzero (by omega)
    have hlog : (significand * 2 ^ shift).log2 < 53 + shift := by
      rw [Nat.log2_lt hpos, Nat.pow_add]
      exact Nat.mul_lt_mul_of_pos_right hlt (Nat.two_pow_pos shift)
    exact Nat.dvd_trans (Nat.pow_dvd_pow 2 (by omega)) (Nat.dvd_mul_left _ _)
  · rw [← Nat.pow_add, Nat.log2_two_pow]
    exact Nat.pow_dvd_pow 2 (by omega)

/-- Rounding leaves a number that has few significant bits as it is. -/
theorem roundSteps_mul_self {steps : Nat} (hshort : Short steps) (h : 0 < den) :
    roundSteps (steps * den) den = steps := by
  obtain ⟨m, hm⟩ := hshort.pow_dvd
  simp only [roundSteps, Nat.mul_div_cancel steps h]
  have hsplit : steps * den = m * (den * Nat.pow 2 (steps.log2 - 52)) := by
    conv_lhs => rw [hm]
    change 2 ^ _ * m * den = m * (den * 2 ^ _)
    ring
  have hpos : 0 < den * Nat.pow 2 (steps.log2 - 52) := Nat.mul_pos h (Nat.two_pow_pos _)
  rw [hsplit, roundDiv_mul hpos, Nat.mul_comm]
  exact hm.symm

end Judge.Decimal.Binary64
