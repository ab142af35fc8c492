import Judge.Decimal.Binary64
import Judge.Decimal.Integer

/-!
Floating-point numbers in decimal. What is read is an optional sign, digits with an optional point, at
least one digit in all, and an optional exponent; or the name of an infinity or of not-a-number in any
case. What is written has a fixed number of places, rounded from the exact value, ties to the even last
digit.
-/

namespace Judge.Decimal

/-- The value of a run of digits after `value`, the number of digits read, and the rest. -/
def takeDigits (value count : Nat) : List Char → Nat × Nat × List Char
  | [] => (value, count, [])
  | c :: rest =>
    match digit? c with
    | some d => takeDigits (10 * value + d) (count + 1) rest
    | none => (value, count, c :: rest)

/-- Reads an exponent mark with its digits, which must end the text. -/
def readExponent : List Char → Option Int
  | [] => some 0
  | c :: rest =>
    if c = 'e' ∨ c = 'E' then
      let (negative, digits) := match rest with
        | '-' :: digits => (true, digits)
        | '+' :: digits => (false, digits)
        | digits => (false, digits)
      match takeDigits 0 0 digits with
      | (_, 0, _) => none
      | (value, _, []) => some (if negative then -(value : Int) else value)
      | _ => none
    else none

/-- Reads a number without its sign. -/
def readUnsigned (negative : Bool) (text : List Char) : Option Binary64 :=
  match (text.map Char.toLower) with
  | ['i', 'n', 'f'] | ['i', 'n', 'f', 'i', 'n', 'i', 't', 'y'] => some (.infinite negative)
  | ['n', 'a', 'n'] => some .nan
  | _ =>
    let (whole, wholeCount, rest) := takeDigits 0 0 text
    let (value, places, rest) := match rest with
      | '.' :: rest => takeDigits whole 0 rest
      | rest => (whole, 0, rest)
    if wholeCount + places = 0 then none
    else (readExponent rest).map fun exponent =>
      Binary64.ofDecimal negative value (exponent - places)

/-- Reads a floating-point number, rounded correctly. -/
def readReal? : List Char → Option Binary64
  | '+' :: rest => readUnsigned false rest
  | '-' :: rest => readUnsigned true rest
  | text => readUnsigned false text

/-! ### Writing -/

/-- Zeros in front that bring a number to at least a given number of digits. -/
def padLeft (width : Nat) (digits : List Char) : List Char :=
  List.replicate (width - digits.length) '0' ++ digits

/-- A number of units of the last place, with the point put in. -/
def placePoint (places units : Nat) : List Char :=
  let digits := padLeft (places + 1) (writeNat units)
  let whole := digits.take (digits.length - places)
  whole ++ (if places = 0 then [] else '.' :: digits.drop (digits.length - places))

/-- A number with the given number of places. -/
def writeFixed (places : Nat) : Binary64 → List Char
  | .nan => ['N', 'a', 'N']
  | .infinite negative => (if negative then ['-'] else []) ++ ['i', 'n', 'f']
  | .finite negative steps =>
    (if negative then ['-'] else []) ++
      placePoint places (roundDiv (steps * Nat.pow 10 places) Binary64.one)

example : writeFixed 3 (.ofDecimal false 625 (-4)) = "0.062".toList := by decide +kernel

end Judge.Decimal
