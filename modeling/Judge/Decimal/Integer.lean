/-!
Whole numbers in decimal: reading with an optional sign inside given bounds, and writing.
-/

namespace Judge.Decimal

/-- Why a text is not a whole number of the wanted size. -/
inductive IntegerError where
  | empty
  | invalidDigit
  | tooLarge
  | tooSmall
  deriving DecidableEq, Repr

/-- The wording of each cause. -/
def IntegerError.message : IntegerError → String
  | .empty => "cannot parse integer from empty string"
  | .invalidDigit => "invalid digit found in string"
  | .tooLarge => "number too large to fit in target type"
  | .tooSmall => "number too small to fit in target type"

/-- The least and the greatest number of a kind of whole number. -/
structure Bounds where
  least : Int
  greatest : Int
  deriving DecidableEq, Repr

/-- Numbers of 32 bits with a sign. -/
def int32 : Bounds := ⟨-2147483648, 2147483647⟩

/-- Numbers of 64 bits with a sign. -/
def int64 : Bounds := ⟨-9223372036854775808, 9223372036854775807⟩

/-- Numbers of 64 bits without a sign. -/
def nat64 : Bounds := ⟨0, 18446744073709551615⟩

/-- Whether a number lies within the bounds. -/
def Bounds.contains (bounds : Bounds) (n : Int) : Bool := bounds.least ≤ n && n ≤ bounds.greatest

/-- The nearest number within the bounds. -/
def Bounds.clamp (bounds : Bounds) (n : Int) : Int := max bounds.least (min bounds.greatest n)

/-- The number that is congruent to `n` modulo 2 to the 32 and fits 32 bits with a sign. -/
def wrap32 (n : Int) : Int := Int.bmod n 4294967296

/-- The value of a decimal digit. -/
def digit? (c : Char) : Option Nat := if c.isDigit then some (c.toNat - 48) else none

/-- Reads digits after `value`. The first character that is no digit, or the first digit that
takes the number over the limit, decides the error. -/
def readDigits (limit : Nat) (excess : IntegerError) (value : Nat) :
    List Char → Except IntegerError Nat
  | [] => .ok value
  | c :: rest =>
    match digit? c with
    | none => .error .invalidDigit
    | some d =>
      if limit < 10 * value + d then .error excess
      else readDigits limit excess (10 * value + d) rest

/-- Reads a whole number: an optional sign and at least one digit. A minus sign needs bounds that
hold negative numbers. -/
def readInteger (bounds : Bounds) : List Char → Except IntegerError Int
  | [] => .error .empty
  | ['+'] | ['-'] => .error .invalidDigit
  | '+' :: rest => (readDigits bounds.greatest.toNat .tooLarge 0 rest).map (·)
  | '-' :: rest =>
    if bounds.least < 0 then
      (readDigits bounds.least.natAbs .tooSmall 0 rest).map fun n => -(n : Int)
    else .error .invalidDigit
  | text => (readDigits bounds.greatest.toNat .tooLarge 0 text).map (·)

/-- Reads a whole number, keeping no reason for a failure. -/
def readInteger? (bounds : Bounds) (text : List Char) : Option Int :=
  (readInteger bounds text).toOption

/-- The digits of a natural number. -/
def writeNat (n : Nat) : List Char := Nat.toDigits 10 n

/-- The digits of a whole number, after a minus sign if it is negative. -/
def writeInt (n : Int) : List Char := if n < 0 then '-' :: writeNat n.natAbs else writeNat n.natAbs

example : readInteger? int32 "-007".toList = some (-7) := by decide

example : readInteger int32 "2147483648x".toList = .error .tooLarge := by rfl

end Judge.Decimal
