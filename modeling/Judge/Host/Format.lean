import Judge.Decimal.Real
import Judge.Host.Numeral

/-!
Layouts of values in text: a width, a precision, and how what is missing is filled up.
-/

namespace Judge.Host

open Judge.Decimal

/-- How a value is laid out. -/
structure Layout where
  left : Bool := false
  plus : Bool := false
  blank : Bool := false
  alternate : Bool := false
  zero : Bool := false
  width : Nat := 0
  precision : Option Nat := none
  deriving Repr

namespace Layout

/-- The layout with a flag, if the character is one. -/
def withFlag? (l : Layout) : Char → Option Layout
  | '-' => some { l with left := true }
  | '+' => some { l with plus := true }
  | ' ' => some { l with blank := true }
  | '#' => some { l with alternate := true }
  | '0' => some { l with zero := true }
  | _ => none

/-- The layout with a width; a negative one means that the value stands on the left. -/
def withWidth (l : Layout) (width : Int) : Layout :=
  if width < 0 then { l with left := true, width := width.natAbs }
  else { l with width := width.toNat }

/-- The layout with a precision; a negative one means none. -/
def withPrecision (l : Layout) (precision : Int) : Layout :=
  { l with precision := if precision < 0 then none else some precision.toNat }

/-- Fills up a value. Zeros go between what stands in front of its digits and them. -/
def fill (l : Layout) (zeros : Bool) (front body : Raw) : Raw :=
  let missing := l.width - (front.length + body.length)
  if l.left then front ++ body ++ List.replicate missing ' '
  else if zeros && l.zero then front ++ List.replicate missing '0' ++ body
  else List.replicate missing ' ' ++ front ++ body

/-- What stands in front of a number. -/
def sign (l : Layout) (negative : Bool) : Raw :=
  if negative then ['-'] else if l.plus then ['+'] else if l.blank then [' '] else []

/-- A text, cut off at the precision. -/
def text (l : Layout) (value : Raw) : Raw :=
  l.fill false [] ((l.precision.map value.take).getD value)

/-- The digits of a number to a base, at least as many as the precision says. -/
def wholeDigits (l : Layout) (base n : Nat) : Raw :=
  if n = 0 && l.precision == some 0 then []
  else padLeft (l.precision.getD 1) (Nat.toDigits base n)

/-- A whole number with a sign. -/
def integer (l : Layout) (n : Int) : Raw :=
  l.fill l.precision.isNone (l.sign (n < 0)) (l.wholeDigits 10 n.natAbs)

/-- A whole number without a sign. -/
def decimalNatural (l : Layout) (n : Nat) : Raw := l.fill l.precision.isNone [] (l.wholeDigits 10 n)

/-- An octal number. The alternate form starts with a zero. -/
def octal (l : Layout) (n : Nat) : Raw :=
  let digits := l.wholeDigits 8 n
  let digits := if l.alternate && digits.head? != some '0' then '0' :: digits else digits
  l.fill l.precision.isNone [] digits

/-- A hexadecimal number. The alternate form of one that is not zero tells its base. -/
def hexadecimal (l : Layout) (upper : Bool) (n : Nat) : Raw :=
  let text := l.fill l.precision.isNone (if l.alternate && n != 0 then ['0', 'x'] else [])
    (l.wholeDigits 16 n)
  if upper then text.map Char.toUpper else text

/-- The digits of a number with so many places. The alternate form always has a point. -/
def fixedDigits (l : Layout) (places steps : Nat) : Raw :=
  let digits := placePoint places (roundDiv (steps * Nat.pow 10 places) Binary64.one)
  if places = 0 && l.alternate then digits ++ ['.'] else digits

/-- The exponent of ten of a number that is not zero. -/
def exponentOfTen (steps : Nat) : Int :=
  if Binary64.one ≤ steps then ((Nat.toDigits 10 (steps / Binary64.one)).length : Int) - 1
  else
    let scaled := steps * Nat.pow 10 330 / Binary64.one
    ((Nat.toDigits 10 scaled).length : Int) - 331

/-- The digits of a number with one in front of the point, and its exponent. -/
def scientificDigits (places steps : Nat) : Nat × Int :=
  if steps = 0 then (0, 0)
  else
    let exponent := exponentOfTen steps
    let shift := (places : Int) - exponent
    let power := Nat.pow 10 shift.natAbs
    let units := if 0 ≤ shift then roundDiv (steps * power) Binary64.one
      else roundDiv steps (Binary64.one * power)
    if Nat.pow 10 (places + 1) ≤ units then (units / 10, exponent + 1) else (units, exponent)

/-- An exponent with its mark. -/
def exponentText (mark : Char) (least : Nat) (exponent : Int) : Raw :=
  mark :: (if exponent < 0 then '-' else '+') :: padLeft least (Nat.toDigits 10 exponent.natAbs)

/-- The form with an exponent. -/
def scientific (l : Layout) (places steps : Nat) : Raw :=
  let (units, exponent) := scientificDigits places steps
  placePoint places units ++ (if places = 0 && l.alternate then ['.'] else []) ++
    exponentText 'e' 2 exponent

/-- Digits without zeros at the end behind a point. -/
def withoutZeros (digits : Raw) : Raw :=
  if digits.contains '.' then
    let reversed := digits.reverse.dropWhile (· == '0')
    (if reversed.head? == some '.' then reversed.drop 1 else reversed).reverse
  else digits

/-- The form that suits the size of a number. -/
def general (l : Layout) (precision steps : Nat) : Raw :=
  let precision := Nat.max precision 1
  let (units, exponent) := scientificDigits (precision - 1) steps
  let strip (digits : Raw) : Raw := if l.alternate then digits else withoutZeros digits
  if exponent < -4 || (precision : Int) ≤ exponent then
    let point := if precision = 1 && l.alternate then ['.'] else []
    strip (placePoint (precision - 1) units ++ point) ++ exponentText 'e' 2 exponent
  else strip (l.fixedDigits ((precision : Int) - 1 - exponent).toNat steps)

/-- The hexadecimal form: the digits behind its point and the exponent of two. -/
def hexadecimalReal (l : Layout) (steps : Nat) : Raw :=
  let (mantissa, exponent) :=
    if steps < 0x10000000000000 then (steps, if steps = 0 then (0 : Int) else -1022)
    else
      let shift := steps.log2 - 52
      (steps / Nat.pow 2 shift, (shift : Int) - 1022)
  let (whole, digits) := match l.precision with
    | none =>
      let digits := padLeft 13 (Nat.toDigits 16 (mantissa % 0x10000000000000))
      (mantissa / 0x10000000000000, (digits.reverse.dropWhile (· == '0')).reverse)
    | some places =>
      if 13 ≤ places then
        (mantissa / 0x10000000000000,
          padLeft 13 (Nat.toDigits 16 (mantissa % 0x10000000000000)) ++
            List.replicate (places - 13) '0')
      else
        let unit := Nat.pow 16 (13 - places)
        let units := roundDiv mantissa unit
        let size := Nat.pow 16 places
        (units / size, if places = 0 then [] else padLeft places (Nat.toDigits 16 (units % size)))
  Nat.toDigits 16 whole ++
    (if digits.isEmpty && !l.alternate then [] else '.' :: digits) ++ exponentText 'p' 1 exponent

/-- A floating-point number in the form that a letter stands for. -/
def real (l : Layout) (letter : Char) (negative : Bool) (value : Binary64) : Raw :=
  let text := match value with
    | .nan => l.fill false (l.sign negative) "nan".toList
    | .infinite _ => l.fill false (l.sign negative) "inf".toList
    | .finite _ steps =>
      match letter.toLower with
      | 'f' => l.fill true (l.sign negative) (l.fixedDigits (l.precision.getD 6) steps)
      | 'e' => l.fill true (l.sign negative) (l.scientific (l.precision.getD 6) steps)
      | 'g' => l.fill true (l.sign negative) (l.general (l.precision.getD 6) steps)
      | _ => l.fill true (l.sign negative ++ ['0', 'x']) (l.hexadecimalReal steps)
  if letter.isUpper then text.map Char.toUpper else text

example : ({ zero := true, width := 6 } : Layout).integer (-42) = "-00042".toList := by decide

end Layout
end Judge.Host
