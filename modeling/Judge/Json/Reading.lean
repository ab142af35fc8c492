import Judge.Decimal.Integer
import Judge.Decimal.Shortest

/-!
What a JSON text says, as far as it can be read. Reading keeps going until the first flaw, and the
flaw stays in the place where it was met, so that whoever looks for a value meets flaws and
unexpected values in the order of the text.
-/

namespace Judge.Json

/-- What is wrong with a text. -/
inductive Flaw where
  /-- Something else than the grammar allows. -/
  | malformed
  /-- The text ends too early. -/
  | truncated
  deriving DecidableEq, Repr

/-- Where reading stops: what is reported if the value is wanted, if it is passed over, and if one of
several named values is wanted. -/
structure Break where
  whenRead : Flaw
  whenSkipped : Flaw
  whenChosen : Flaw
  deriving DecidableEq, Repr

/-- The same flaw in all cases. -/
def Break.all (flaw : Flaw) : Break := ⟨flaw, flaw, flaw⟩

/-- A flaw behind something that no named value has. -/
def Break.foreign (reason : Break) : Break := { reason with whenChosen := .malformed }

/-- The digits of a number. -/
structure Number where
  negative : Bool
  whole : List Char
  fraction : Option (List Char) := none
  /-- Sign and digits of the exponent. -/
  exponent : Option (Bool × List Char) := none
  deriving DecidableEq, Repr

/-- A value, as far as it could be read. -/
inductive Reading where
  | null
  | bool (value : Bool)
  | number (value : Number)
  /-- A text, none if its escapes name no characters. -/
  | text (value : Option (List Char))
  /-- Items, and the reason if the list is not closed after them. -/
  | list (items : List Reading) (stop : Option Break)
  /-- Members, and the reason if the record is not closed after them. -/
  | record (members : List (Option (List Char) × Reading)) (stop : Option Break)
  | broken (reason : Break)

/-- Why a value cannot be taken from a text. -/
inductive ReadError where
  | flaw (flaw : Flaw)
  /-- The text is well-formed so far but has another shape. -/
  | shape
  deriving DecidableEq, Repr

/-- The value of a number: whole if it is written so and fits 64 bits, with a sign if negative. -/
inductive Numeral where
  | whole (value : Int)
  | real (value : Decimal.Binary64)
  | outOfRange
  deriving DecidableEq, Repr

namespace Number

/-- The greatest significand that is kept exactly. -/
def limit : Nat := 18446744073709551615

/-- Takes digits into a significand while it stays within the limit. Gives the significand, the
number of digits taken, and whether all were taken. -/
def gather (value count : Nat) : List Char → Nat × Nat × Bool
  | [] => (value, count, true)
  | c :: rest =>
    let next := 10 * value + (c.toNat - 48)
    if limit < next then (value, count, false) else gather next (count + 1) rest

/-- Scales a significand by a power of ten in steps of at most 308 places, each step rounded; none
if the result is too large. -/
def scale (value : Decimal.Binary64) (exponent : Int) : Nat → Option Decimal.Binary64
  | 0 => some .zero
  | fuel + 1 =>
    if exponent.natAbs ≤ 308 then
      let power := Decimal.Binary64.ofInt (Nat.pow 10 exponent.natAbs : Nat)
      if 0 ≤ exponent then
        let product := value.mul power
        if product.isFinite then some product else none
      else some (value.div power)
    else if value.eq .zero then some value
    else if 0 ≤ exponent then none
    else scale (value.div (.ofInt (Nat.pow 10 308 : Nat))) (exponent + 308) fuel

/-- The number of a significand and an exponent. -/
def ofParts (negative : Bool) (significand : Nat) (exponent : Int) : Numeral :=
  match scale (.ofInt significand) exponent 8 with
  | none => .outOfRange
  | some value => .real (if negative then value.neg else value)

/-- The value that a number has in a record. Digits that do not fit the significand count as zeros
before the point and are dropped behind it. -/
def numeral (n : Number) : Numeral :=
  let (significand, taken, complete) := gather 0 0 n.whole
  let scaled : Int := n.whole.length - taken
  match n.fraction, n.exponent with
  | none, none =>
    if !complete then ofParts n.negative significand scaled
    else if !n.negative then .whole significand
    else if significand = 0 ∨ 9223372036854775808 < significand then
      .real (Decimal.Binary64.ofInt significand).neg
    else .whole (-(significand : Int))
  | fraction, exponent =>
    let (significand, places, _) := gather significand 0 (fraction.getD [])
    let base : Int := scaled - places
    match exponent with
    | none => ofParts n.negative significand base
    | some (down, digits) =>
      let shift := (gather 0 0 (digits.dropWhile (· == '0'))).1
      if 2147483648 ≤ shift then
        if significand ≠ 0 ∧ !down then .outOfRange
        else .real (if n.negative then Decimal.Binary64.zero.neg else .zero)
      else ofParts n.negative significand (if down then base - shift else base + shift)

end Number
end Judge.Json
