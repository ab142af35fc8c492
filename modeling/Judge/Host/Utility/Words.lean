import Judge.Host.Printing
import Judge.Host.Utility.Files

/-!
Utilities that write what they are given, or what follows from it.
-/

namespace Judge.Host.Utility

/-- Reads hexadecimal digits, at most so many. -/
def hexadecimalDigits : Nat → Nat → Raw → Nat × Raw
  | limit + 1, n, c :: rest =>
    match Numeral.digit? 16 c with
    | some d => hexadecimalDigits limit (16 * n + d) rest
    | none => (n, c :: rest)
  | _, n, rest => (n, rest)

/-- A text with the escapes of `echo` replaced, through at most so many characters, behind what was
found before, in reverse; and whether an escape ends all output. -/
def unescapeFrom : Nat → Raw → Raw → Raw × Bool
  | steps + 1, found, '\\' :: rest =>
    match rest with
    | 'c' :: _ => (found.reverse, true)
    | 'x' :: rest =>
      let (n, after) := hexadecimalDigits 2 0 rest
      if after.length = rest.length then unescapeFrom steps ('x' :: '\\' :: found) rest
      else unescapeFrom steps (Printing.charOf n :: found) after
    | '0' :: rest =>
      let (n, rest) := Printing.octalDigits 3 0 rest
      unescapeFrom steps (Printing.charOf n :: found) rest
    | rest =>
      let (c, rest) := Printing.escape rest
      unescapeFrom steps (c :: found) rest
  | steps + 1, found, c :: rest => unescapeFrom steps (c :: found) rest
  | _, found, _ => (found.reverse, false)

/-- Texts with blanks between them, with their escapes replaced if they are to be. -/
def echoed (escapes : Bool) (ending : Raw) : List Raw → Raw
  | [] => ending
  | text :: rest =>
    let (text, ends) := if escapes then unescapeFrom text.length [] text else (text, false)
    if ends then text
    else if rest.isEmpty then text ++ ending
    else text ++ ' ' :: echoed escapes ending rest

/-- The options in front of what `echo` writes: whether the line is left open and whether escapes
are replaced. -/
def echoOptions (isOpen escapes : Bool) : List Raw → Bool × Bool × List Raw
  | [] => (isOpen, escapes, [])
  | word :: rest =>
    match word with
    | '-' :: letters =>
      if !letters.isEmpty && letters.all (['n', 'e', 'E'].contains ·) then
        let escapes := letters.foldl (fun found c =>
          if c == 'e' then true else if c == 'E' then false else found) escapes
        echoOptions (isOpen || letters.contains 'n') escapes rest
      else (isOpen, escapes, word :: rest)
    | _ => (isOpen, escapes, word :: rest)

/-- Writes its arguments. -/
def echo (arguments : List Raw) : Program :=
  let (isOpen, escapes, texts) := echoOptions false false (arguments.drop 1)
  putAll (arguments.headD []) (echoed escapes (if isOpen then [] else ['\n']) texts) 0

/-- Writes the same again and again. -/
def repeatOutput (name : Raw) (bytes : Bytes) : Nat → Program
  | 0 => return 1
  | steps + 1 => do
    match ← ask (.write 1 bytes) with
    | .ok _ => repeatOutput name bytes steps
    | .error cause =>
      complain name ("standard output: ".toList ++ wording cause)
      return 1

/-- Writes a line again and again. -/
def yes : List Raw → Program :=
  withOptions [] true 1 fun name _ operands => do
    let line := (if operands.isEmpty then ['y'] else Text.join [' '] operands) ++ ['\n']
    let copies := Nat.max 1 (8192 / line.length)
    repeatOutput name (Raw.toBytes (List.replicate copies line).flatten) tries

/-- Complains that there is no operand. -/
def missingOperand (name : Raw) (status : Nat) : Program := misuse name "missing operand".toList status

/-- Complains about an operand that there should not be. -/
def extraOperand (name operand : Raw) (status : Nat) : Program :=
  misuse name ("extra operand ".toList ++ quoted operand) status

/-- The last part of a path without an ending, unless it is all of it. -/
def baseName (ending path : Raw) : Raw :=
  let base := lastName path
  if ending.length < base.length && ending.reverse.isPrefixOf base.reverse then
    base.take (base.length - ending.length)
  else base

/-- Writes the last parts of paths. -/
def basename : List Raw → Program :=
  withOptions [⟨'a', "multiple", false⟩, ⟨'s', "suffix", true⟩, ⟨'z', "zero", false⟩] true 1
    fun name options operands => do
      let ending := if has options 'z' then ['\x00'] else ['\n']
      let several := has options 'a' || has options 's'
      match operands, several with
      | [], _ => missingOperand name 1
      | _ :: _ :: extra :: _, false => extraOperand name extra 1
      | [path, cut], false => putAll name (baseName cut path ++ ending) 0
      | paths, _ =>
        let cut := (valueOf? options 's').getD []
        putAll name (paths.flatMap fun path => baseName cut path ++ ending) 0

/-- Writes the directories of paths. -/
def dirname : List Raw → Program :=
  withOptions [⟨'z', "zero", false⟩] true 1 fun name options operands => do
    let ending := if has options 'z' then ['\x00'] else ['\n']
    if operands.isEmpty then missingOperand name 1
    else putAll name (operands.flatMap fun path => directoryOf path ++ ending) 0

/-- The complaint about an argument of `printf`. -/
def complaintOf : Printing.Complaint → Raw
  | .noNumber argument => quoted argument ++ ": expected a numeric value".toList
  | .partly argument => quoted argument ++ ": value not completely converted".toList
  | .outOfRange argument => quoted argument ++ ": Numerical result out of range".toList

/-- Writes arguments with a format. -/
def printf (arguments : List Raw) : Program := do
  let name := arguments.headD []
  let operands := match arguments.drop 1 with
    | ['-', '-'] :: rest => rest
    | rest => rest
  match operands with
  | [] => missingOperand name 1
  | format :: values =>
    let printed := Printing.printf format values
    let _ ← worst (fun c => do complain name (complaintOf c); return 0) printed.complaints
    match printed.failure with
    | some (.badDirective directive) | some (.noLetter directive) =>
      let _ ← put name printed.output
      complain name (directive ++ ": invalid conversion specification".toList)
      return 1
    | none =>
      if let some extra := printed.unused.head? then
        complain name ("warning: ignoring excess arguments, starting with ".toList ++ quoted extra)
      putAll name printed.output (if printed.complaints.isEmpty then 0 else 1)

/-- A number of a sequence: so many units, of which ten to the number of places are one. -/
structure Term where
  units : Int
  places : Nat

/-- The number that a text is. -/
def decimal? (text : Raw) : Option Term :=
  let (negative, digits) := match text.dropWhile isBlank with
    | '-' :: rest => (true, rest)
    | '+' :: rest => (false, rest)
    | rest => (false, rest)
  let (whole, rest) := Numeral.digits 10 digits 0
  let count := digits.length - rest.length
  let (units, places, rest) := match rest with
    | '.' :: behind =>
      let (units, rest) := Numeral.digits 10 behind whole
      (units, behind.length - rest.length, rest)
    | rest => (whole, 0, rest)
  let signed (n : Nat) : Int := if negative then -(n : Int) else n
  if count + places = 0 then none
  else match rest with
    | [] => some ⟨signed units, places⟩
    | mark :: exponent =>
      if mark != 'e' && mark != 'E' then none
      else match Numeral.whole? 10 exponent with
        | none => none
        | some n =>
          if 300 < n.natAbs then none
          else if (places : Int) ≤ n then
            some ⟨signed (units * Nat.pow 10 (n - places).toNat), 0⟩
          else some ⟨signed units, (places - n).toNat⟩

/-- The units of a number with so many places. -/
def Term.scale (t : Term) (places : Nat) : Int :=
  t.units * (Nat.pow 10 (places - t.places) : Int)

/-- A number of units with so many places. -/
def showUnits (places : Nat) (units : Int) : Raw :=
  (if units < 0 then ['-'] else []) ++ Judge.Decimal.placePoint places units.natAbs

/-- A number with zeros in front up to a width. -/
def padUnits (width : Nat) (text : Raw) : Raw :=
  match text with
  | '-' :: digits => '-' :: Judge.Decimal.padLeft (width - 1) digits
  | digits => Judge.Decimal.padLeft width digits

/-- The numbers of a sequence, as texts. -/
def sequenceTexts (shown : Int → Raw) (step last : Int) : Nat → Int → List Raw
  | 0, _ => []
  | limit + 1, current =>
    if (0 < step && last < current) || (step < 0 && current < last) then []
    else shown current :: sequenceTexts shown step last limit (current + step)

/-- Writes the numbers of a sequence. -/
def sequenceOutput (name : Raw) (options : List Given) (first step last : Term) : Program := do
  let places := Nat.max first.places step.places
  let scale := Nat.max places last.places
  let count := (last.scale scale - first.scale scale).natAbs / (step.scale scale).natAbs + 2
  let shown (units : Int) : Raw := showUnits places (units / (Nat.pow 10 (scale - places) : Int))
  let texts := sequenceTexts shown (step.scale scale) (last.scale scale) count (first.scale scale)
  let wide := (texts.map (·.length)).foldl Nat.max 0
  let texts := if has options 'w' then texts.map (padUnits wide) else texts
  let texts := match valueOf? options 'f' with
    | some format => texts.map fun text => (Printing.printf format [text]).output
    | none => texts
  if texts.isEmpty then return 0
  else putAll name (Text.join ((valueOf? options 's').getD ['\n']) texts ++ ['\n']) 0

/-- Whether an argument is a number below zero rather than options. -/
def isNegative : Raw → Bool
  | '-' :: c :: _ => c.isDigit || c == '.'
  | _ => false

/-- The arguments with a mark behind the options if a number below zero follows them. -/
def markOperands : List Raw → List Raw
  | [] => []
  | argument :: rest =>
    if isNegative argument then ['-', '-'] :: argument :: rest
    else match argument with
      | '-' :: _ => argument :: markOperands rest
      | _ => argument :: rest

/-- Writes the numbers from one to another. -/
def seq (arguments : List Raw) : Program :=
  withOptions [⟨'s', "separator", true⟩, ⟨'w', "equal-width", false⟩, ⟨'f', "format", true⟩] true 1
    (fun name options operands => do
      let bad (operand : Raw) : Program :=
        misuse name ("invalid floating point argument: ".toList ++ quoted operand) 1
      match operands with
      | [] => missingOperand name 1
      | _ :: _ :: _ :: extra :: _ => extraOperand name extra 1
      | operands =>
        match operands.find? fun operand => (decimal? operand).isNone with
        | some operand => bad operand
        | none =>
          match operands.filterMap decimal? with
          | [last] => sequenceOutput name options ⟨1, 0⟩ ⟨1, 0⟩ last
          | [first, last] => sequenceOutput name options first ⟨1, 0⟩ last
          | [first, step, last] =>
            if step.units = 0 then
              misuse name ("invalid Zero increment value: ".toList ++ quoted ((operands.drop 1).headD []))
                1
            else sequenceOutput name options first step last
          | _ => return 1)
    (arguments.take 1 ++ markOperands (arguments.drop 1))

end Judge.Host.Utility
