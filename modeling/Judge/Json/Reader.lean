import Judge.Json.Reading
import Judge.Text.Utf8

/-!
Reading JSON text. Blanks are the space, the tab, the line feed and the carriage return; a number
has no leading zeros, needs digits on both sides of a point and in an exponent; a text has no raw
controls, its escapes of halves of a pair come in pairs, and its bytes are UTF-8.

Reading goes through the bytes, each as the character of its number: outside of texts only ASCII has
a meaning, and of a text that is passed over nothing more is asked.
-/

namespace Judge.Json

/-- Drops the blanks in front. -/
def skipBlanks (text : List Char) : List Char :=
  text.dropWhile fun c => c == ' ' || c == '\n' || c == '\t' || c == '\r'

/-- A value and the text after it, none if reading stops there. -/
abbrev Step (α : Type) := α × Option (List Char)

/-- A value at which reading stops. -/
def stopAt (reason : Break) : Step Reading := (.broken reason, none)

/-- Reads the rest of a word. -/
def readWord (value : Reading) : List Char → List Char → Step Reading
  | [], text => (value, some text)
  | _ :: _, [] => stopAt (Break.all .truncated).foreign
  | w :: word, c :: text => if w = c then readWord value word text else stopAt (.all .malformed)

/-- The flaw of a number that ends where a digit must come. -/
def missingDigit : List Char → Break
  | [] => ⟨.truncated, .malformed, .malformed⟩
  | _ => .all .malformed

/-- Reads what may follow the mantissa of a number. -/
def readNumberExponent (n : Number) : List Char → Step Reading
  | c :: rest =>
    if c = 'e' ∨ c = 'E' then
      let (down, rest) := match rest with
        | '-' :: rest => (true, rest)
        | '+' :: rest => (false, rest)
        | rest => (false, rest)
      match rest.span Char.isDigit with
      | ([], rest) => stopAt (missingDigit rest)
      | (digits, rest) => (.number { n with exponent := some (down, digits) }, some rest)
    else (.number n, some (c :: rest))
  | [] => (.number n, some [])

/-- Reads what may follow the whole part of a number. -/
def readNumberFraction (n : Number) : List Char → Step Reading
  | '.' :: rest =>
    match rest.span Char.isDigit with
    | ([], rest) => stopAt (missingDigit rest)
    | (digits, rest) => readNumberExponent { n with fraction := some digits } rest
  | rest => readNumberExponent n rest

/-- Reads a number after its sign. -/
def readNumber (negative : Bool) (text : List Char) : Step Reading :=
  match text.span Char.isDigit with
  | ([], rest) => stopAt (missingDigit rest)
  | ('0' :: _ :: _, _) => stopAt (.all .malformed)
  | (digits, rest) => readNumberFraction { negative, whole := digits } rest

/-- The value of a hexadecimal digit. -/
def hexDigit? (c : Char) : Option Nat :=
  if c.isDigit then some (c.toNat - 48)
  else if 'a' ≤ c ∧ c ≤ 'f' then some (c.toNat - 87)
  else if 'A' ≤ c ∧ c ≤ 'F' then some (c.toNat - 55)
  else none

/-- The value of four hexadecimal digits. -/
def hexCode? (a b c d : Char) : Option Nat := do
  return (((← hexDigit? a) * 16 + (← hexDigit? b)) * 16 + (← hexDigit? c)) * 16 + (← hexDigit? d)

/-- The character that a short escape names. -/
def shortEscape? : Char → Option Char
  | '\x22' => some '\x22'
  | '\\' => some '\\'
  | '/' => some '/'
  | 'b' => some '\x08'
  | 'f' => some '\x0c'
  | 'n' => some '\n'
  | 'r' => some '\r'
  | 't' => some '\t'
  | _ => none

/-- A text as it is read: its bytes in reverse, none after an escape that names no character, and
the first half of a pair whose second half must follow. -/
structure TextState where
  bytes : Option Bytes := some []
  half : Option Nat := none

namespace TextState

/-- Adds a character. -/
def pushChar (s : TextState) (c : Char) : TextState :=
  { bytes := s.bytes.map ((String.utf8EncodeChar c).reverse ++ ·) }

/-- Adds the byte of a number. -/
def push (s : TextState) (c : Char) : TextState :=
  match s.half with
  | none => { bytes := s.bytes.map (UInt8.ofNat c.toNat :: ·) }
  | some _ => { bytes := none }

/-- Adds a code unit given by an escape. -/
def pushUnit (s : TextState) (unit : Nat) : TextState :=
  match s.half with
  | some high =>
    if 0xDC00 ≤ unit ∧ unit ≤ 0xDFFF then
      s.pushChar (Char.ofNat (0x10000 + (high - 0xD800) * 0x400 + (unit - 0xDC00)))
    else { bytes := none }
  | none =>
    if 0xD800 ≤ unit ∧ unit ≤ 0xDBFF then { s with half := some unit }
    else if 0xDC00 ≤ unit ∧ unit ≤ 0xDFFF then { bytes := none }
    else s.pushChar (Char.ofNat unit)

/-- What is reported where a text stops, depending on whether its escapes were sound so far. -/
def stop (s : TextState) (flaw : Flaw) : Break :=
  { Break.all (if s.bytes.isNone then .malformed else flaw) with whenSkipped := flaw }

/-- The text that was read. -/
def result (s : TextState) : Option (List Char) :=
  if s.half.isSome then none else s.bytes.bind fun bytes => Utf8.decode? bytes.reverse

end TextState

/-- Reads a text after its opening quote. -/
def readText (s : TextState) : List Char → Except Break (Option (List Char) × List Char)
  | [] => .error (s.stop .truncated)
  | '\x22' :: rest => .ok (s.result, rest)
  | '\\' :: 'u' :: a :: b :: c :: d :: rest =>
    match hexCode? a b c d with
    | some unit => readText (s.pushUnit unit) rest
    | none => .error (s.stop .malformed)
  | '\\' :: 'u' :: _ => .error (s.stop .truncated)
  | '\\' :: c :: rest =>
    match shortEscape? c with
    | some c => readText (s.push c) rest
    | none => .error (s.stop .malformed)
  | ['\\'] => .error (s.stop .truncated)
  | c :: rest => if c < ' ' then .error (s.stop .malformed) else readText (s.push c) rest

mutual

/-- Reads a value. The fuel bounds the length of the text. -/
def readValue : Nat → List Char → Step Reading
  | 0, _ => stopAt (.all .truncated)
  | fuel + 1, text =>
    match skipBlanks text with
    | [] => stopAt (.all .truncated)
    | 'n' :: rest => readWord .null ['u', 'l', 'l'] rest
    | 't' :: rest => readWord (.bool true) ['r', 'u', 'e'] rest
    | 'f' :: rest => readWord (.bool false) ['a', 'l', 's', 'e'] rest
    | '\x22' :: rest =>
      match readText {} rest with
      | .ok (value, rest) => (.text value, some rest)
      | .error reason => stopAt reason
    | '[' :: rest =>
      let (items, stop, rest) := readItems fuel true rest
      (.list items stop, rest)
    | '\x7b' :: rest =>
      let (members, stop, rest) := readMembers fuel true rest
      (.record members stop, rest)
    | '-' :: rest => readNumber true rest
    | c :: rest => if c.isDigit then readNumber false (c :: rest) else stopAt (.all .malformed)

/-- Reads the items of a list up to its end. -/
def readItems : Nat → Bool → List Char → List Reading × Option Break × Option (List Char)
  | 0, _, _ => ([], some (.all .truncated), none)
  | fuel + 1, first, text =>
    match skipBlanks text with
    | [] => ([], some (.all .truncated), none)
    | c :: rest =>
      if c = ']' then ([], none, some rest)
      else if first then readItem fuel (c :: rest)
      else if c = ',' then
        match skipBlanks rest with
        | [] => ([.broken (.all .truncated)], none, none)
        | ']' :: _ => ([.broken (.all .malformed)], none, none)
        | rest => readItem fuel rest
      else ([], some (.all .malformed), none)

/-- Reads an item and those after it. -/
def readItem : Nat → List Char → List Reading × Option Break × Option (List Char)
  | 0, _ => ([], some (.all .truncated), none)
  | fuel + 1, text =>
    match readValue fuel text with
    | (value, none) => ([value], none, none)
    | (value, some rest) =>
      let (items, stop, rest) := readItems fuel false rest
      (value :: items, stop, rest)

/-- Reads the members of a record up to its end. -/
def readMembers : Nat → Bool → List Char →
    List (Option (List Char) × Reading) × Option Break × Option (List Char)
  | 0, _, _ => ([], some (.all .truncated), none)
  | fuel + 1, first, text =>
    match skipBlanks text with
    | [] => ([], some (.all .truncated), none)
    | c :: rest =>
      if c = '\x7d' then ([], none, some rest)
      else if first then readMember fuel (c :: rest)
      else if c = ',' then
        let (members, stop, rest) := readMember fuel (skipBlanks rest)
        (members, stop.map Break.foreign, rest)
      else ([], some (.all .malformed), none)

/-- Reads a member and those after it. -/
def readMember : Nat → List Char →
    List (Option (List Char) × Reading) × Option Break × Option (List Char)
  | 0, _ => ([], some (.all .truncated), none)
  | _, [] => ([], some (.all .truncated), none)
  | fuel + 1, c :: rest =>
    if c = '\x22' then
      match readText {} rest with
      | .error reason => ([], some reason, none)
      | .ok (key, rest) =>
        match skipBlanks rest with
        | [] => ([(key, .broken (.all .truncated))], none, none)
        | ':' :: rest =>
          match readValue fuel rest with
          | (value, none) => ([(key, value)], none, none)
          | (value, some rest) =>
            let (members, stop, rest) := readMembers fuel false rest
            ((key, value) :: members, stop, rest)
        | _ => ([(key, .broken (.all .malformed))], none, none)
    else ([], some (.all .malformed), none)

end

/-- The character of the number of a byte. -/
def charOf (b : UInt8) : Char := Char.ofNat b.toNat

/-- Reads the value that a text starts with. -/
def read (text : Bytes) : Step Reading := readValue (3 * text.length + 3) (text.map charOf)

end Judge.Json
