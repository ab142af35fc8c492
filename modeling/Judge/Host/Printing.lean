import Judge.Host.Format

/-!
Texts with escapes, and texts that are made from a format and arguments.
-/

namespace Judge.Host

namespace Printing

/-- Reads octal digits, at most so many. -/
def octalDigits : Nat → Nat → Raw → Nat × Raw
  | limit + 1, n, c :: rest =>
    if '0' ≤ c && c ≤ '7' then octalDigits limit (8 * n + (c.toNat - 48)) rest else (n, c :: rest)
  | _, n, rest => (n, rest)

/-- The character of a number of which only the last byte counts. -/
def charOf (n : Nat) : Char := Char.ofNat (n % 256)

/-- The character that letters behind a backslash stand for; a backslash if they have no meaning. -/
def escape : Raw → Char × Raw
  | [] => ('\\', [])
  | c :: rest =>
    if '0' ≤ c && c ≤ '7' then
      let (n, rest) := octalDigits 3 0 (c :: rest)
      (charOf n, rest)
    else match c with
      | '\\' => ('\\', rest)
      | 'a' => ('\x07', rest)
      | 'b' => ('\x08', rest)
      | 'e' => ('\x1b', rest)
      | 'f' => ('\x0c', rest)
      | 'n' => ('\n', rest)
      | 'r' => ('\r', rest)
      | 't' => ('\t', rest)
      | 'v' => ('\x0b', rest)
      | _ => ('\\', c :: rest)

/-- A text with its escapes replaced, through at most so many characters, behind what was found
before, in reverse; and whether an escape ends all output. Octal numbers may have a further zero in
front. -/
def unescapeFrom : Nat → Raw → Raw → Raw × Bool
  | steps + 1, found, '\\' :: rest =>
    if rest.head? == some 'c' then (found.reverse, true)
    else
      let isOctal (c : Char) : Bool := '0' ≤ c && c ≤ '7'
      let rest := match rest with
        | '0' :: d :: more => if isOctal d then d :: more else rest
        | _ => rest
      let (c, rest) := escape rest
      unescapeFrom steps (c :: found) rest
  | steps + 1, found, c :: rest => unescapeFrom steps (c :: found) rest
  | _, found, _ => (found.reverse, false)

/-- A text with its escapes replaced, and whether an escape ends all output. -/
def unescape (text : Raw) : Raw × Bool := unescapeFrom text.length [] text

/-- Texts with blanks between them, up to an escape that ends all output. -/
def echoed (ending : Raw) : List Raw → Raw
  | [] => ending
  | text :: rest =>
    match unescape text with
    | (text, true) => text
    | (text, false) =>
      if rest.isEmpty then text ++ ending else text ++ ' ' :: echoed ending rest

/-- What `echo` writes. -/
def echo : List Raw → Raw
  | ['-', 'n'] :: rest => echoed [] rest
  | arguments => echoed ['\n'] arguments

/-- What is wrong with an argument that is to be a number. -/
inductive Complaint where
  | noNumber (argument : Raw)
  /-- Something follows the number. -/
  | partly (argument : Raw)
  | outOfRange (argument : Raw)

/-- The wording of each complaint. -/
def Complaint.message : Complaint → Raw
  | .noNumber argument => argument ++ ": expected numeric value".toList
  | .partly argument => argument ++ ": not completely converted".toList
  | .outOfRange argument => argument ++ ": Numerical result out of range".toList

/-- The state of writing with a format. -/
structure State where
  arguments : List Raw
  /-- What was written, in reverse. -/
  output : List Raw := []
  /-- What was complained about, in reverse. -/
  complaints : List Complaint := []

/-- What is wrong with a format. -/
inductive FormatFault where
  | badDirective (directive : Raw)
  | noLetter (directive : Raw)

/-- The wording of each fault. -/
def FormatFault.message : FormatFault → Raw
  | .badDirective directive => directive ++ ": invalid directive".toList
  | .noLetter _ => "missing format character".toList

/-- Why writing stops. -/
inductive Halt where
  | failure (fault : FormatFault)
  /-- An escape ends all output. -/
  | ended

/-- A part of writing with a format. -/
abbrev Print (α : Type) := ExceptT Halt (StateM State) α

/-- Writes a text. -/
def put (text : Raw) : Print Unit := modify fun s => { s with output := text :: s.output }

/-- Complains, and goes on. -/
def complain (complaint : Complaint) : Print Unit :=
  modify fun s => { s with complaints := complaint :: s.complaints }

/-- Takes the next argument. -/
def next? : Print (Option Raw) := do
  match (← get).arguments with
  | [] => return none
  | argument :: rest =>
    modify fun s => { s with arguments := rest }
    return some argument

/-- Complains about an argument that is not a number, or not only one. -/
def check (argument rest : Raw) (isCut : Bool) : Print Unit := do
  if !rest.isEmpty then
    complain (if rest.length = argument.length then .noNumber argument else .partly argument)
  else if isCut then complain (.outOfRange argument)

/-- The number of the character behind a quote, if an argument starts with one. -/
def quoted? : Raw → Option Nat
  | '\'' :: rest | '\x22' :: rest => some ((rest.head?.map Char.toNat).getD 0)
  | _ => none

/-- The number that the next argument is. -/
def nextInteger : Print Int := do
  match ← next? with
  | none => return 0
  | some argument =>
    match quoted? argument, Numeral.read? 0 argument with
    | some n, _ => return n
    | none, some result =>
      check argument result.rest result.isCut
      return result.value
    | none, none =>
      check argument argument false
      return 0

/-- The number without a sign that the next argument is; a sign means the number below zero that is
congruent to it. -/
def nextNatural : Print Nat := do
  match ← next? with
  | none => return 0
  | some argument =>
    match quoted? argument, Numeral.readNatural? 0 argument with
    | some n, _ => return n
    | none, some (value, isCut, rest) =>
      check argument rest isCut
      return value
    | none, none =>
      check argument argument false
      return 0

/-- The floating-point number that the next argument is, with its sign. -/
def nextReal : Print (Bool × Decimal.Binary64) := do
  match ← next? with
  | none => return (false, .zero)
  | some argument =>
    match quoted? argument, Numeral.readReal? argument with
    | some n, _ => return (false, .ofInt n)
    | none, some (negative, result) =>
      check argument result.rest result.isCut
      return (negative, result.value)
    | none, none =>
      check argument argument false
      return (false, .zero)

/-- Flags in front. -/
def flags (l : Layout) : Raw → Layout × Raw
  | c :: rest =>
    match l.withFlag? c with
    | some l => flags l rest
    | none => (l, c :: rest)
  | [] => (l, [])

/-- A size in front: digits, or the next argument. -/
def size : Raw → Print (Option Int × Raw)
  | '*' :: rest => do return (some (Int.bmod (← nextInteger) 4294967296), rest)
  | text => do
    let (n, rest) := Numeral.digits 10 text 0
    return (if rest.length = text.length then none else some n, rest)

/-- Writes the next argument in the form that a letter stands for. -/
def write (l : Layout) (letter : Char) (directive : Raw) : Print Unit := do
  match letter with
  | 's' => put (l.text ((← next?).getD []))
  | 'c' => put ({ l with precision := none }.text
      [((← next?).bind (·.head?)).getD '\x00'])
  | 'b' =>
    let (text, ends) := unescape ((← next?).getD [])
    put (l.text text)
    if ends then throw .ended
  | 'd' | 'i' => put (l.integer (← nextInteger))
  | 'u' => put (l.decimalNatural (← nextNatural))
  | 'o' => put (l.octal (← nextNatural))
  | 'x' => put (l.hexadecimal false (← nextNatural))
  | 'X' => put (l.hexadecimal true (← nextNatural))
  | _ =>
    if "aAeEfFgG".toList.contains letter then
      let (negative, value) ← nextReal
      put (l.real letter negative value)
    else throw (.failure (.badDirective directive))

/-- Writes what a format says, through at most so many characters. -/
def run : Nat → Raw → Print Unit
  | _, [] => return ()
  | 0, _ => return ()
  | steps + 1, '\\' :: rest => do
    let (c, rest) := escape rest
    put [c]
    run steps rest
  | steps + 1, '%' :: '%' :: rest => do
    put ['%']
    run steps rest
  | steps + 1, '%' :: start => do
    let (l, rest) := flags {} start
    let (width, rest) ← size rest
    let l := l.withWidth (width.getD 0)
    let (l, rest) ← match rest with
      | '.' :: rest => do
        let (precision, rest) ← size rest
        pure (l.withPrecision (precision.getD 0), rest)
      | rest => pure (l, rest)
    match rest with
    | [] => throw (.failure (.noLetter ('%' :: start)))
    | letter :: rest =>
      write l letter ('%' :: start.take (start.length - rest.length))
      run steps rest
  | steps + 1, c :: rest => do
    put [c]
    run steps rest

/-- Writes what a format says as long as there are arguments that it takes. -/
def runAll (format : Raw) : Nat → Print Unit
  | 0 => return ()
  | steps + 1 => do
    let before := (← get).arguments.length
    run format.length format
    let after := (← get).arguments.length
    if after ≠ 0 && after < before then runAll format steps

/-- What `printf` writes and complains about, and the failure that ends it, if there is one. -/
structure Printed where
  output : Raw
  complaints : List Complaint
  failure : Option FormatFault
  /-- The arguments that the format did not take. -/
  unused : List Raw

/-- Writes arguments with a format. -/
def printf (format : Raw) (arguments : List Raw) : Printed :=
  let (result, s) := (runAll format (arguments.length + 1)).run { arguments }
  { output := s.output.reverse.flatten
    complaints := s.complaints.reverse
    failure := match result with
      | .error (.failure fault) => some fault
      | _ => none
    unused := s.arguments }

end Printing
end Judge.Host
