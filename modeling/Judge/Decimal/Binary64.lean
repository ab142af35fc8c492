/-!
Floating-point numbers of 64 bits. A finite one is a whole number of the smallest positive one, the
step of 2 to the minus 1074, so every operation is exact arithmetic on numbers of steps followed by
one rounding to the nearest representable number, ties to the even one.
-/

namespace Judge.Decimal

/-- A floating-point number: not a number, an infinity, or a sign with a number of steps. -/
inductive Binary64 where
  | nan
  | infinite (negative : Bool)
  | finite (negative : Bool) (steps : Nat)
  deriving DecidableEq, Repr, Inhabited

/-- The quotient rounded to the nearest whole number, ties to the even one. -/
def roundDiv (num den : Nat) : Nat :=
  let q := num / den
  let r := num % den
  if den < 2 * r ∨ (2 * r = den ∧ q % 2 = 1) then q + 1 else q

/-- The quotient is off by at most half a unit. -/
theorem roundDiv_near {num den : Nat} (h : 0 < den) :
    2 * (roundDiv num den * den) ≤ 2 * num + den ∧
      2 * num ≤ 2 * (roundDiv num den * den) + den := by
  have hq : num / den * den + num % den = num := by
    rw [Nat.mul_comm]; exact Nat.div_add_mod num den
  have hr := Nat.mod_lt num h
  unfold roundDiv
  simp only
  split
  · rw [Nat.add_mul]
    omega
  · omega

namespace Binary64

/-- Steps in one. -/
def one : Nat := Nat.pow 2 1074

/-- The least number of steps that is too large for a finite number. -/
def overflow : Nat := Nat.pow 2 2098

/-- The number of steps nearest to a quotient among those with at most 53 significant bits. -/
def roundSteps (num den : Nat) : Nat :=
  let shift := (num / den).log2 - 52
  roundDiv num (den * Nat.pow 2 shift) * Nat.pow 2 shift

/-- The number nearest to a quotient of steps. -/
def ofSteps (negative : Bool) (num den : Nat) : Binary64 :=
  let steps := roundSteps num den
  if overflow ≤ steps then .infinite negative else .finite negative steps

/-- Zero, without a sign. -/
def zero : Binary64 := .finite false 0

/-- The number nearest to a whole number. -/
def ofInt (n : Int) : Binary64 := ofSteps (n < 0) (n.natAbs * one) 1

/-- The number nearest to `significand` times ten to the `exponent`. Exponents far outside the
range are settled without computing the power. -/
def ofDecimal (negative : Bool) (significand : Nat) (exponent : Int) : Binary64 :=
  if significand = 0 then .finite negative 0
  else
    let digits : Int := (Nat.toDigits 10 significand).length
    if 320 < exponent + digits then .infinite negative
    else if exponent + digits < -340 then .finite negative 0
    else if 0 ≤ exponent then ofSteps negative (significand * Nat.pow 10 exponent.toNat * one) 1
    else ofSteps negative (significand * one) (Nat.pow 10 (-exponent).toNat)

/-- Neither an infinity nor not a number. -/
def isFinite : Binary64 → Bool
  | .finite _ _ => true
  | _ => false

/-- The same number with the other sign. -/
def neg : Binary64 → Binary64
  | .nan => .nan
  | .infinite negative => .infinite !negative
  | .finite negative steps => .finite (!negative) steps

/-- The steps of a finite number as a whole number with a sign. -/
def signedSteps (negative : Bool) (steps : Nat) : Int :=
  if negative then -(steps : Int) else steps

/-- The order of numbers; nothing is comparable with what is not a number. -/
def lt : Binary64 → Binary64 → Bool
  | .nan, _ | _, .nan => false
  | .infinite true, .infinite true => false
  | .infinite true, _ => true
  | .infinite false, _ => false
  | .finite _ _, .infinite negative => !negative
  | .finite n a, .finite m b => signedSteps n a < signedSteps m b

/-- Equality of numbers: the zeros are equal and what is not a number is equal to nothing. -/
def eq : Binary64 → Binary64 → Bool
  | .nan, _ | _, .nan => false
  | .infinite a, .infinite b => a == b
  | .finite n a, .finite m b => signedSteps n a == signedSteps m b
  | _, _ => false

/-- The rounded product. -/
def mul : Binary64 → Binary64 → Binary64
  | .nan, _ | _, .nan => .nan
  | .infinite n, .infinite m => .infinite (n ^^ m)
  | .infinite n, .finite m steps => if steps = 0 then .nan else .infinite (n ^^ m)
  | .finite n steps, .infinite m => if steps = 0 then .nan else .infinite (n ^^ m)
  | .finite n a, .finite m b => ofSteps (n ^^ m) (a * b) one

/-- The rounded quotient. -/
def div : Binary64 → Binary64 → Binary64
  | .nan, _ | _, .nan => .nan
  | .infinite _, .infinite _ => .nan
  | .infinite n, .finite m _ => .infinite (n ^^ m)
  | .finite n _, .infinite m => .finite (n ^^ m) 0
  | .finite n a, .finite m b =>
    if b = 0 then (if a = 0 then .nan else .infinite (n ^^ m))
    else ofSteps (n ^^ m) (a * one) b

/-- The rounded sum. -/
def add : Binary64 → Binary64 → Binary64
  | .nan, _ | _, .nan => .nan
  | .infinite n, .infinite m => if n = m then .infinite n else .nan
  | .infinite n, .finite _ _ => .infinite n
  | .finite _ _, .infinite m => .infinite m
  | .finite n a, .finite m b =>
    let sum := signedSteps n a + signedSteps m b
    if sum = 0 then .finite (n && m) 0 else ofSteps (sum < 0) sum.natAbs 1

/-- The smaller of two numbers, the other one if one is not a number. -/
def min : Binary64 → Binary64 → Binary64
  | .nan, b => b
  | a, .nan => a
  | a, b => if lt b a then b else a

/-- The nearest whole number, halves away from zero; an infinity has none. -/
def round? : Binary64 → Option Int
  | .finite negative steps =>
    let n : Int := ((2 * steps + one) / (2 * one) : Nat)
    some (if negative then -n else n)
  | _ => none

/-- The least whole number that is not smaller, for a finite number that is not negative. -/
def ceil (steps : Nat) : Nat := (steps + one - 1) / one

/-- The bits of the interchange format; every number that is none has the same bits. -/
def toBits : Binary64 → Nat
  | .nan => 0x7FF8000000000000
  | .infinite negative => (if negative then 0x8000000000000000 else 0) + 0x7FF0000000000000
  | .finite negative steps =>
    let sign := if negative then 0x8000000000000000 else 0
    if steps < 0x10000000000000 then sign + steps
    else
      let shift := steps.log2 - 52
      sign + (shift + 1) * 0x10000000000000 + (steps / Nat.pow 2 shift - 0x10000000000000)

example : toBits (ofDecimal false 5 (-1)) = 0x3FE0000000000000 := by decide +kernel

example : toBits (ofDecimal false 1 (-324)) = 0 ∧ toBits (ofDecimal false 3 (-324)) = 1 := by
  decide +kernel

end Binary64
end Judge.Decimal
