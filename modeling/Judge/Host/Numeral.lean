import Judge.Decimal.Real
import Judge.Text.Raw

/-!
Numbers as programs of the host read them. A whole number is a sign, then digits to a base that their
start can tell, as far as they go; out of the range of 64 bits it is cut off at its end. A
floating-point number stands in front of a text: a decimal one with an exponent of ten, a hexadecimal
one with an exponent of two, or a name of what is no number.
-/

namespace Judge.Host

/-- Blanks, as programs of the host know them. -/
def isBlank (c : Char) : Bool := c == ' ' || ('\t' ≤ c && c ≤ '\r')

namespace Numeral

/-- The greatest number. -/
def greatest : Int := 9223372036854775807

/-- The least number. -/
def least : Int := -9223372036854775808

/-- A number within the range of 64 bits that differs from the given one by a multiple of it. -/
def wrap (n : Int) : Int := Int.bmod n 18446744073709551616

/-- The value of a digit. -/
def digit? (base : Nat) (c : Char) : Option Nat :=
  let value :=
    if c.isDigit then c.toNat - 48
    else if 'a' ≤ c && c ≤ 'z' then c.toNat - 87
    else if 'A' ≤ c && c ≤ 'Z' then c.toNat - 55
    else base
  if value < base then some value else none

/-- Reads digits as far as they go. -/
def digits (base : Nat) : Raw → Nat → Nat × Raw
  | c :: rest, n =>
    match digit? base c with
    | some d => digits base rest (n * base + d)
    | none => (n, c :: rest)
  | [], n => (n, [])

/-- What was read. -/
structure Result where
  value : Int
  /-- Whether the number was out of range. -/
  isCut : Bool
  rest : Raw

/-- The number of digits with a sign. -/
def signed (negative : Bool) (n : Nat) (rest : Raw) : Result :=
  let value : Int := if negative then -(n : Int) else n
  if value < least then ⟨least, true, rest⟩
  else if greatest < value then ⟨greatest, true, rest⟩
  else ⟨value, false, rest⟩

/-- Reads the digits of a number; base 0 means that they tell their base. None if there are none. -/
def unsigned? (base : Nat) (text : Raw) : Option (Nat × Raw) :=
  let plain (base : Nat) (text : Raw) : Option (Nat × Raw) :=
    if (text.head?.bind (digit? base)).isSome then some (digits base text 0) else none
  let marked : Option (Nat × Raw) :=
    match text with
    | '0' :: mark :: rest =>
      if (mark == 'x' || mark == 'X') && (base == 0 || base == 16) then plain 16 rest
      else if (mark == 'b' || mark == 'B') && base == 0 then plain 2 rest
      else none
    | _ => none
  match marked with
  | some found => some found
  | none =>
    if base = 0 then plain (if text.head? == some '0' then 8 else 10) text else plain base text

/-- Reads a number in front of a text, none if there is none. -/
def read? (base : Nat) (text : Raw) : Option Result :=
  let (negative, digits) := match text.dropWhile isBlank with
    | '-' :: rest => (true, rest)
    | '+' :: rest => (false, rest)
    | rest => (false, rest)
  (unsigned? base digits).map fun (n, rest) => signed negative n rest

/-- Reads a number without a sign in front of a text, with whether it was out of range. A minus sign
means the number below zero that is congruent to it. -/
def readNatural? (base : Nat) (text : Raw) : Option (Nat × Bool × Raw) :=
  let (negative, digits) := match text.dropWhile isBlank with
    | '-' :: rest => (true, rest)
    | '+' :: rest => (false, rest)
    | rest => (false, rest)
  (unsigned? base digits).map fun (n, rest) =>
    if 18446744073709551615 < n then (18446744073709551615, true, rest)
    else if negative then ((18446744073709551616 - n) % 18446744073709551616, false, rest)
    else (n, false, rest)

/-- A number that a whole text is, with blanks around it. -/
def whole? (base : Nat) (text : Raw) : Option Int := do
  let result ← read? base text
  if result.isCut || !result.rest.all isBlank then none else some result.value

/-- A number as text. -/
def write (n : Int) : Raw := (toString n).toList

/-! ### Floating-point numbers -/

open Judge.Decimal

/-- A number that was read. -/
structure RealResult where
  value : Binary64
  /-- Whether the number was too large, or too small to be exact. -/
  isCut : Bool := false
  rest : Raw

/-- What follows a word in front of a text, in any case of letters. -/
def afterWord? (word : String) (text : Raw) : Option Raw :=
  if word.toList.isPrefixOf (text.map Char.toLower) then some (text.drop word.length) else none

/-- An exponent in front, behind its mark: an optional sign and digits. -/
def exponent? : Raw → Option (Int × Raw)
  | c :: rest =>
    let (negative, digits) := if c == '-' then (true, rest) else if c == '+' then (false, rest)
      else (false, c :: rest)
    match takeDigits 0 0 digits with
    | (_, 0, _) => none
    | (value, _, rest) => some (if negative then -(value : Int) else value, rest)
  | [] => none

/-- The exponent in front with its mark, 0 if there is none. -/
def exponentAfter (mark : Char) (text : Raw) : Int × Raw :=
  match text with
  | c :: rest => if c.toLower == mark then (exponent? rest).getD (0, text) else (0, text)
  | [] => (0, [])

/-- The number of two numbers of steps that is nearest to a quotient, with whether it is cut. -/
def nearest (negative : Bool) (num den : Nat) : Binary64 × Bool :=
  match Binary64.ofSteps negative num den with
  | .finite n steps => (.finite n steps, steps < 0x10000000000000 && steps * den != num)
  | value => (value, true)

/-- The greatest size of an exponent that makes a difference. -/
def exponentLimit : Nat := 20000

/-- A number times ten to an exponent. -/
def decimal (negative : Bool) (significand : Nat) (exponent : Int) : Binary64 × Bool :=
  if significand = 0 then (.finite negative 0, false)
  else if exponentLimit < exponent.natAbs then
    (if exponent < 0 then .finite negative 0 else .infinite negative, true)
  else
    let power := Nat.pow 10 exponent.natAbs
    if exponent < 0 then nearest negative (significand * Binary64.one) power
    else nearest negative (significand * power * Binary64.one) 1

/-- A number times two to an exponent. -/
def binary (negative : Bool) (significand : Nat) (exponent : Int) : Binary64 × Bool :=
  if significand = 0 then (.finite negative 0, false)
  else if exponentLimit < exponent.natAbs then
    (if exponent < 0 then .finite negative 0 else .infinite negative, true)
  else
    let power := Nat.pow 2 exponent.natAbs
    if exponent < 0 then nearest negative (significand * Binary64.one) power
    else nearest negative (significand * power * Binary64.one) 1

/-- Hexadecimal digits with a point: their value, how many there are, and how many of them stand
behind the point. -/
def hexadecimalDigits (text : Raw) : Nat × Nat × Nat × Raw :=
  let (whole, rest) := digits 16 text 0
  let count := text.length - rest.length
  match rest with
  | '.' :: behind =>
    let (value, rest) := digits 16 behind whole
    let places := behind.length - rest.length
    if count + places = 0 then (whole, count, 0, '.' :: behind)
    else (value, count + places, places, rest)
  | rest => (whole, count, 0, rest)

/-- Reads a number without a sign in front of a text. -/
def unsignedReal? (negative : Bool) (text : Raw) : Option RealResult :=
  match afterWord? "infinity" text, afterWord? "inf" text, afterWord? "nan" text with
  | some rest, _, _ | none, some rest, _ => some { value := .infinite negative, rest }
  | none, none, some rest => some { value := .nan, rest }
  | none, none, none =>
    let hexadecimal := match text with
      | '0' :: x :: rest =>
        if x == 'x' || x == 'X' then
          match hexadecimalDigits rest with
          | (_, 0, _, _) => none
          | (value, _, places, rest) =>
            let (exponent, rest) := exponentAfter 'p' rest
            let (value, isCut) := binary negative value (exponent - 4 * places)
            some ⟨value, isCut, rest⟩
        else none
      | _ => none
    match hexadecimal with
    | some found => some found
    | none =>
      let (whole, wholeCount, rest) := takeDigits 0 0 text
      let (value, places, rest) := match rest with
        | '.' :: behind =>
          let (value, places, behind') := takeDigits whole 0 behind
          if wholeCount + places = 0 then (whole, 0, rest) else (value, places, behind')
        | rest => (whole, 0, rest)
      if wholeCount + places = 0 then none
      else
        let (exponent, rest) := exponentAfter 'e' rest
        let (value, isCut) := decimal negative value (exponent - places)
        some ⟨value, isCut, rest⟩

/-- Reads a number in front of a text, none if there is none. The sign of what is no number is told
apart. -/
def readReal? (text : Raw) : Option (Bool × RealResult) :=
  let (negative, rest) := match text.dropWhile isBlank with
    | '-' :: rest => (true, rest)
    | '+' :: rest => (false, rest)
    | rest => (false, rest)
  (unsignedReal? negative rest).map (negative, ·)

end Numeral
end Judge.Host
