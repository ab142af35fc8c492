import Judge.Host.Utility.Reading

/-!
Utilities that put lines in order and compare neighbours.
-/

namespace Judge.Host.Utility

/-- How texts are compared. -/
structure Comparing where
  numeric : Bool := false
  reverse : Bool := false
  foldCase : Bool := false
  skipBlanks : Bool := false
  deriving Repr

/-- A part of a line by which lines are compared: from a field and a character of it on, up to the
end of another one, or up to a character of it. -/
structure SortKey where
  field : Nat
  char : Nat := 1
  lastField : Option Nat := none
  lastChar : Nat := 0
  comparing : Option Comparing := none
  deriving Repr

/-- The comparing that letters ask for, none if one of them means nothing. -/
def comparing? (letters : Raw) : Option Comparing :=
  letters.foldl (fun found c => found.bind fun found =>
    match c with
    | 'n' | 'g' => some { found with numeric := true }
    | 'r' => some { found with reverse := true }
    | 'f' => some { found with foldCase := true }
    | 'b' => some { found with skipBlanks := true }
    | 'd' | 'i' => some found
    | _ => none) (some {})

/-- The place that a text such as `2.3nr` gives: the field, the character and the letters. -/
def place? (text : Raw) : Option (Nat × Option Nat × Raw) := do
  let field ← digits? (text.takeWhile Char.isDigit)
  match text.dropWhile Char.isDigit with
  | '.' :: rest =>
    let char ← digits? (rest.takeWhile Char.isDigit)
    return (field, some char, rest.dropWhile Char.isDigit)
  | rest => return (field, none, rest)

/-- The key that a text gives. -/
def key? (text : Raw) : Option SortKey := do
  let (first, last) := match Text.cut ',' text with
    | some (first, last) => (first, some last)
    | none => (text, none)
  let (field, char, letters) ← place? first
  let comparing ← comparing? letters
  let start : SortKey :=
    { field, char := char.getD 1, comparing := if letters.isEmpty then none else some comparing }
  match last with
  | none => return start
  | some last =>
    let (lastField, lastChar, more) ← place? last
    let both ← comparing? (letters ++ more)
    return { start with
      lastField := some lastField, lastChar := lastChar.getD 0
      comparing := if (letters ++ more).isEmpty then none else some both }

/-- Whether a character is a blank within a line. -/
def isGap (c : Char) : Bool := c == ' ' || c == '\t'

/-- A line from a field on. -/
def fromField (separator : Option Char) : Nat → Raw → Raw
  | 0, line => line
  | n + 1, line =>
    match separator with
    | some c => fromField separator n ((line.dropWhile (· != c)).drop 1)
    | none => fromField separator n ((line.dropWhile isGap).dropWhile (!isGap ·))

/-- The part of a line that a key means. -/
def SortKey.of (key : SortKey) (separator : Option Char) (line : Raw) : Raw :=
  let skip (text : Raw) : Raw :=
    if (key.comparing.map (·.skipBlanks)).getD false then text.dropWhile isGap else text
  let start := (skip (fromField separator (key.field - 1) line)).drop (key.char - 1)
  match key.lastField with
  | none => start
  | some last =>
    let rest := if key.lastChar = 0 then
        match separator with
        | some c => (fromField separator (last - 1) line).dropWhile (· != c)
        | none => ((fromField none (last - 1) line).dropWhile isGap).dropWhile (!isGap ·)
      else (skip (fromField separator (last - 1) line)).drop key.lastChar
    start.take (start.length - rest.length)

/-- The number in front of a text as its sign, the digits in front of the point and those behind. -/
def numberOf (text : Raw) : Bool × Raw × Raw :=
  let text := text.dropWhile isGap
  let (negative, text) := match text with
    | '-' :: rest => (true, rest)
    | rest => (false, rest)
  let whole := (text.takeWhile Char.isDigit).dropWhile (· == '0')
  let places := match text.dropWhile Char.isDigit with
    | '.' :: rest => ((rest.takeWhile Char.isDigit).reverse.dropWhile (· == '0')).reverse
    | _ => []
  (negative && !(whole.isEmpty && places.isEmpty), whole, places)

/-- The order of texts, byte by byte. -/
def compareTexts (a b : Raw) : Ordering :=
  if a < b then .lt else if b < a then .gt else .eq

/-- The order of numbers in front of texts. -/
def compareNumbers (a b : Raw) : Ordering :=
  let (negativeA, wholeA, placesA) := numberOf a
  let (negativeB, wholeB, placesB) := numberOf b
  let sizes := (compare wholeA.length wholeB.length).then
    ((compareTexts wholeA wholeB).then (compareTexts placesA placesB))
  match negativeA, negativeB with
  | true, false => .lt
  | false, true => .gt
  | true, true => sizes.swap
  | false, false => sizes

/-- The order of texts in a manner of comparing. -/
def Comparing.compare (c : Comparing) (a b : Raw) : Ordering :=
  let fold (text : Raw) : Raw := if c.foldCase then text.map Char.toUpper else text
  let found := if c.numeric then compareNumbers a b else compareTexts (fold a) (fold b)
  if c.reverse then found.swap else found

/-- How lines are put in order. -/
structure SortPlan where
  comparing : Comparing := {}
  keys : List SortKey := []
  separator : Option Char := none
  unique : Bool := false
  stable : Bool := false

/-- The order of lines, going by keys only. -/
def SortPlan.compareKeys (plan : SortPlan) (a b : Raw) : Ordering :=
  let keys := if plan.keys.isEmpty then [({ field := 1 } : SortKey)] else plan.keys
  keys.foldl (fun found key => found.then <|
    let comparing := key.comparing.getD plan.comparing
    let key := { key with comparing := some comparing }
    comparing.compare (key.of plan.separator a) (key.of plan.separator b)) .eq

/-- The order of lines. -/
def SortPlan.compare (plan : SortPlan) (a b : Raw) : Ordering :=
  let found := plan.compareKeys a b
  if plan.unique || plan.stable then found
  else
    let last := compareTexts a b
    found.then (if plan.comparing.reverse then last.swap else last)

/-- Lines in order. -/
def SortPlan.sort (plan : SortPlan) (lines : List Raw) : List Raw :=
  let sorted := lines.mergeSort fun a b => plan.compare a b != .gt
  if !plan.unique then sorted
  else
    (sorted.foldl (fun (found : List Raw) line =>
      match found with
      | last :: _ => if plan.compareKeys last line == .eq then found else line :: found
      | [] => [line]) []).reverse

/-- The first line that is out of order, with its number. -/
def SortPlan.disorder? (plan : SortPlan) (lines : List Raw) : Option (Nat × Raw) :=
  ((lines.zip (lines.drop 1)).zipIdx 2).findSome? fun ((a, b), n) =>
    let found := plan.compare a b
    if found == .gt || (plan.unique && found == .eq) then some (n, b) else none

/-- The options of `sort`. -/
def sortOptions : List Known :=
  [⟨'b', "ignore-leading-blanks", false⟩, ⟨'c', "check", false⟩, ⟨'C', "", false⟩,
    ⟨'d', "dictionary-order", false⟩, ⟨'f', "ignore-case", false⟩,
    ⟨'g', "general-numeric-sort", false⟩, ⟨'k', "key", true⟩, ⟨'m', "merge", false⟩,
    ⟨'n', "numeric-sort", false⟩, ⟨'o', "output", true⟩, ⟨'r', "reverse", false⟩,
    ⟨'s', "stable", false⟩, ⟨'t', "field-separator", true⟩, ⟨'u', "unique", false⟩]

/-- The content of files one after the other, or the file that cannot be read and why. -/
def readAllOf : List Raw → Act (Except (Raw × IoError) (List Raw))
  | [] => return .ok []
  | path :: rest => do
    match ← contentOf path with
    | .error cause => return .error (path, cause)
    | .ok content =>
      match ← readAllOf rest with
      | .error fault => return .error fault
      | .ok more => return .ok (bareLines content ++ more)

/-- Puts lines in order. -/
def sort : List Raw → Program :=
  withOptions sortOptions false 2 fun name options operands => do
    let keys := options.filterMap fun o => if o.letter == 'k' then some (key? o.value) else none
    let comparing := (comparing? ((options.map (·.letter)).filter
      fun c => "nrfbgdi".toList.contains c)).getD {}
    let plan : SortPlan :=
      { comparing, keys := keys.filterMap id
        separator := (valueOf? options 't').bind (·.head?)
        unique := has options 'u', stable := has options 's' }
    if keys.any (·.isNone) then
      let bad := (options.find? fun o => o.letter == 'k' && (key? o.value).isNone).map (·.value)
      complain name ("invalid number at field start: invalid count at start of ".toList ++
        quoted (bad.getD []))
      return 2
    let paths := if operands.isEmpty then [['-']] else operands
    match ← readAllOf paths with
    | .error (path, cause) =>
      complain name ("cannot read: ".toList ++ path ++ ": ".toList ++ wording cause)
      return 2
    | .ok lines =>
      if has options 'c' || has options 'C' then
        match plan.disorder? lines with
        | none => return 0
        | some (n, line) =>
          if has options 'c' then
            complain name (paths.headD [] ++ ':' :: showNat n ++ ": disorder: ".toList ++ line)
          return 1
      else
        let text := joinLines (plan.sort lines)
        match valueOf? options 'o' with
        | none => putAll name text 0
        | some path =>
          match ← ask (.openFile path .write) with
          | .error cause =>
            complain name ("open failed: ".toList ++ path ++ ": ".toList ++ wording cause)
            return 2
          | .ok descriptor =>
            tell descriptor text
            return 0

/-- Neighbouring lines that are the same, with how many of them there are. -/
def runsOf (same : Raw → Raw → Bool) (lines : List Raw) : List (Nat × Raw) :=
  (lines.foldl (fun (found : List (Nat × Raw)) line =>
    match found with
    | (n, first) :: rest =>
      if same first line then (n + 1, first) :: rest else (1, line) :: found
    | [] => [(1, line)]) []).reverse

/-- The options of `uniq`. -/
def uniqOptions : List Known :=
  [⟨'c', "count", false⟩, ⟨'d', "repeated", false⟩, ⟨'D', "all-repeated", false⟩,
    ⟨'f', "skip-fields", true⟩, ⟨'i', "ignore-case", false⟩, ⟨'s', "skip-chars", true⟩,
    ⟨'u', "unique", false⟩, ⟨'w', "check-chars", true⟩, ⟨'z', "zero-terminated", false⟩]

/-- Writes one of neighbouring lines that are the same. -/
def uniq : List Raw → Program :=
  withOptions uniqOptions false 1 fun name options operands => do
    match operands with
    | _ :: _ :: extra :: _ => misuse name ("extra operand ".toList ++ quoted extra) 1
    | _ =>
      let path := operands.headD ['-']
      match ← contentOf path with
      | .error cause =>
        complainOf name path cause
        return 1
      | .ok content =>
        let number (letter : Char) : Option Nat := (valueOf? options letter).bind digits?
        let view (line : Raw) : Raw :=
          let line := (fromField none ((number 'f').getD 0) line).drop ((number 's').getD 0)
          let line := (number 'w').elim line line.take
          if has options 'i' then line.map Char.toLower else line
        let runs := runsOf (fun a b => view a == view b) (bareLines content)
        let wanted := runs.filter fun (n, _) =>
          if has options 'd' then 1 < n && !has options 'u' else !has options 'u' || n = 1
        let text := joinLines (wanted.map fun (n, line) =>
          if has options 'c' then alignRight 7 (showNat n) ++ ' ' :: line else line)
        match operands with
        | [_, target] =>
          match ← ask (.openFile target .write) with
          | .error cause =>
            complainOf name target cause
            return 1
          | .ok descriptor =>
            tell descriptor text
            return 0
        | _ => putAll name text 0

/-- The options of `wc`, in the order in which the counts are shown. -/
def wcOptions : List Known :=
  [⟨'l', "lines", false⟩, ⟨'w', "words", false⟩, ⟨'m', "chars", false⟩, ⟨'c', "bytes", false⟩,
    ⟨'L', "max-line-length", false⟩]

/-- How many words there are. -/
def wordCount (text : Raw) : Nat :=
  let blank (c : Char) : Bool := c == ' ' || ('\t' ≤ c && c ≤ '\r')
  (text.foldl (fun (count, inside) c =>
    if blank c then (count, false) else if inside then (count, true) else (count + 1, true))
    (0, false)).1

/-- The counts of a text, in the order in which they are shown. -/
def countsOf (letters : List Char) (text : Raw) : List Nat :=
  letters.map fun
    | 'l' => text.count '\n'
    | 'w' => wordCount text
    | 'L' => ((bareLines text).map List.length).foldl Nat.max 0
    | _ => text.length

/-- Reads the content of files, each with its size if it is a regular file. -/
def measure (name : Raw) : List Raw → Act (List (Raw × Option Raw × Option Nat))
  | [] => return []
  | path :: rest => do
    match ← openInput path with
    | .error cause =>
      complainOf name path cause
      return (path, none, none) :: (← measure name rest)
    | .ok descriptor =>
      let size ← do
        match ← ask (.lookAt descriptor) with
        | .ok status => pure (if status.kind = .regular then some status.size else none)
        | .error _ => pure none
      match ← readFrom descriptor tries [] with
      | .error cause =>
        complainOf name path cause
        closeInput path descriptor
        return (path, some [], none) :: (← measure name rest)
      | .ok bytes =>
        closeInput path descriptor
        return (path, some (Raw.ofBytes bytes), size) :: (← measure name rest)

/-- Counts lines, words and bytes. The columns are as wide as the total of the sizes needs; seven, if
there is anything but regular files. -/
def wc : List Raw → Program :=
  withOptions wcOptions false 1 fun name options operands => do
    let given := ['l', 'w', 'm', 'c', 'L'].filter (has options)
    let letters := if given.isEmpty then ['l', 'w', 'c'] else given
    let found ← measure name (if operands.isEmpty then [['-']] else operands)
    let counted := found.filterMap fun (path, text, _) =>
      text.map fun text => (path, countsOf letters text)
    let total := counted.foldl (fun sums (_, counts) => List.zipWith (· + ·) sums counts)
      (letters.map fun _ => 0)
    let sizes := found.foldl (fun sum (_, _, size) => sum + size.getD 0) 0
    let isSpecial := found.any fun (_, text, size) => text.isSome && size.isNone
    let digits := (toString sizes).length
    let isLost := (found.head?.map (·.2.1.isNone)).getD false
    let width := if isLost || (letters.length = 1 && operands.length ≤ 1) then 1
      else if isSpecial then Nat.max 7 digits else digits
    let row (counts : List Nat) (label : Raw) : Raw :=
      ((counts.map fun n => alignRight width (showNat n)).intersperse [' ']).flatten ++
        (if label.isEmpty then [] else ' ' :: label) ++ ['\n']
    let rows := counted.map fun (path, counts) =>
      row counts (if operands.isEmpty then [] else path)
    let last := if 1 < operands.length then [row total "total".toList] else []
    putAll name (rows ++ last).flatten (if found.all (·.2.1.isSome) then 0 else 1)

end Judge.Host.Utility
