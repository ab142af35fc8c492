import Judge.Decimal.Binary64
import Judge.Decimal.Integer

/-!
Floating-point numbers with the fewest digits that read back as the same number, and of those the
nearest. A layout says where positional notation ends and how exponents look.
-/

namespace Judge.Decimal

/-- Decimal digits and the power of ten that multiplies them. -/
structure Scientific where
  digits : Nat
  exponent : Int
  deriving DecidableEq, Repr

namespace Scientific

/-- Whether a decimal reads back as the number of steps. -/
def reads (steps : Nat) (d : Scientific) : Bool :=
  Binary64.ofDecimal false d.digits d.exponent == .finite false steps

/-- The number of steps as a quotient in units of ten to the `exponent`. -/
def scaled (steps : Nat) (exponent : Int) : Nat × Nat :=
  if 0 ≤ exponent then (steps, Binary64.one * Nat.pow 10 exponent.toNat)
  else (steps * Nat.pow 10 (-exponent).toNat, Binary64.one)

/-- The power of ten of the leading digit, for a positive number of steps. -/
def leading (steps : Nat) : Int :=
  if Binary64.one ≤ steps then ((Nat.toDigits 10 (steps / Binary64.one)).length : Int) - 1
  else below 0 330
where
  /-- Goes down from ten to the minus `place` until the digit is not zero. -/
  below (place : Nat) : Nat → Int
    | 0 => -(place : Int)
    | fuel + 1 =>
      if Binary64.one ≤ steps * Nat.pow 10 place then -(place : Int) else below (place + 1) fuel

/-- The grid points around a number on the grid of ten to the `exponent` that read back as it, the
nearer one first; a tie goes to the even one. -/
def onGrid (steps : Nat) (exponent : Int) : Option Scientific :=
  let (num, den) := scaled steps exponent
  let low : Scientific := ⟨num / den, exponent⟩
  let high : Scientific := ⟨num / den + 1, exponent⟩
  let nearest : Scientific := ⟨roundDiv num den, exponent⟩
  if nearest.reads steps then some nearest
  else if low.reads steps then some low
  else if high.reads steps then some high
  else none

/-- The first grid, of those with `count` digits and more, on which the number reads back. -/
def search (steps : Nat) (lead : Int) (count : Nat) : Nat → Scientific
  | 0 => ⟨steps * Nat.pow 5 1074, -1074⟩
  | fuel + 1 =>
    match onGrid steps (lead + 1 - count) with
    | some d => d
    | none => search steps lead (count + 1) fuel

/-- The shortest decimal that reads back as a positive number of steps. The exact value stands in
should no grid of seventeen digits do. -/
def shortest (steps : Nat) : Scientific := search steps (leading steps) 1 17

end Scientific

/-- How the digits of a number are laid out. -/
structure Layout where
  /-- The least power of the leading digit that is written positionally. -/
  least : Option Int
  /-- The greatest power of the leading digit that is written positionally. -/
  greatest : Option Int
  /-- Whether a whole number gets a point and a zero. -/
  pointZero : Bool
  /-- Whether an exponent that is not negative gets a plus sign. -/
  plus : Bool

/-- Drops trailing zeros of a digit string, keeping one digit. -/
def dropZeros (digits : List Char) : List Char :=
  match digits.reverse.dropWhile (· == '0') with
  | [] => ['0']
  | rest => rest.reverse

/-- Lays out digits, the first of which stands for ten to the `lead`. -/
def Layout.place (layout : Layout) (digits : List Char) (lead : Int) : List Char :=
  if layout.least.all (· ≤ lead) && layout.greatest.all (lead ≤ ·) then
    if lead < 0 then
      ['0', '.'] ++ List.replicate (-lead - 1).toNat '0' ++ digits
    else
      let count := lead.toNat + 1
      if digits.length ≤ count then
        digits ++ List.replicate (count - digits.length) '0' ++
          (if layout.pointZero then ['.', '0'] else [])
      else digits.take count ++ '.' :: digits.drop count
  else
    let mantissa := match digits with
      | d :: e :: rest => d :: '.' :: e :: rest
      | digits => digits
    let mark := if lead < 0 then ['e'] else if layout.plus then ['e', '+'] else ['e']
    mantissa ++ mark ++ writeInt lead

/-- A number in its shortest form. -/
def Layout.write (layout : Layout) : Binary64 → List Char
  | .nan => ['N', 'a', 'N']
  | .infinite negative => (if negative then ['-'] else []) ++ ['i', 'n', 'f']
  | .finite negative steps =>
    (if negative then ['-'] else []) ++
      (if steps = 0 then '0' :: (if layout.pointZero then ['.', '0'] else [])
      else
        let d := Scientific.shortest steps
        let digits := writeNat d.digits
        layout.place (dropZeros digits) (d.exponent + digits.length - 1))

/-- Numbers in records: positional from ten to the minus 5 up to below ten to the 16, always with a
point or an exponent, whose sign is always written. -/
def recordLayout : Layout := ⟨some (-5), some 15, true, true⟩

/-- Numbers in messages: always positional. -/
def messageLayout : Layout := ⟨none, none, false, false⟩

end Judge.Decimal
