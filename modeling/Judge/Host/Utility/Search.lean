import Judge.Host.Expression
import Judge.Host.Utility.Basic

/-!
Looking for lines that an expression fits.
-/

namespace Judge.Host.Utility

/-- The options of `grep`. -/
def grepOptions : List Known :=
  [⟨'E', "extended-regexp", false⟩, ⟨'F', "fixed-strings", false⟩, ⟨'G', "basic-regexp", false⟩,
    ⟨'i', "ignore-case", false⟩, ⟨'y', "", false⟩, ⟨'v', "invert-match", false⟩,
    ⟨'c', "count", false⟩, ⟨'l', "files-with-matches", false⟩,
    ⟨'L', "files-without-match", false⟩, ⟨'n', "line-number", false⟩, ⟨'q', "quiet", false⟩,
    ⟨'q', "silent", false⟩, ⟨'s', "no-messages", false⟩, ⟨'o', "only-matching", false⟩,
    ⟨'x', "line-regexp", false⟩, ⟨'w', "word-regexp", false⟩, ⟨'h', "no-filename", false⟩,
    ⟨'H', "with-filename", false⟩, ⟨'e', "regexp", true⟩, ⟨'f', "file", true⟩,
    ⟨'m', "max-count", true⟩, ⟨'a', "text", false⟩]

/-- What is looked for, and how. -/
structure Search where
  expression : Expression
  wholeLine : Bool := false
  wholeWord : Bool := false
  inverted : Bool := false
  /-- How many lines of a file are enough. -/
  most : Option Nat := none

/-- Whether a part of a line counts. -/
def Search.accepts (s : Search) (first last : Expression.Place) : Bool :=
  (!s.wholeLine || (first.position = 0 && last.rest.isEmpty)) &&
    (!s.wholeWord || (!first.before.any Expression.isWord && !last.rest.head?.any Expression.isWord))

/-- The first part of a line that counts, from a place on. -/
def Search.find? (s : Search) (p : Expression.Place) :
    Option (Expression.Place × Expression.Place) :=
  Expression.search s.accepts s.expression (p.rest.length + 1) p

/-- Whether a line is one of those that are looked for. -/
def Search.selects (s : Search) (line : Raw) : Bool :=
  (s.find? { rest := line }).isSome != s.inverted

/-- The parts of a line that count, from a place on. -/
def Search.partsFrom (s : Search) : Nat → Expression.Place → List Raw
  | 0, _ => []
  | limit + 1, p =>
    match s.find? p with
    | none => []
    | some (first, last) =>
      let size := last.position - first.position
      if size = 0 then
        if first.rest.isEmpty then [] else partsFrom s limit (first.advance 1)
      else first.rest.take size :: partsFrom s limit last

/-- How what was found is shown. -/
structure Display where
  count : Bool
  names : Bool
  namesWithout : Bool
  numbers : Bool
  quiet : Bool
  onlyParts : Bool
  named : Bool

/-- What is known while the lines of a file are gone through. -/
structure Progress where
  line : Nat := 0
  found : Nat := 0
  /-- The start of a line of which more follows. -/
  open_ : Raw := []

/-- Whether no more lines have to be gone through. -/
def Display.isEnough (d : Display) (s : Search) (p : Progress) : Bool :=
  ((d.quiet || d.names || d.namesWithout) && 0 < p.found) || s.most.any (· ≤ p.found)

/-- Shows a line that was found. -/
def Display.line (d : Display) (s : Search) (name : Raw) (number : Nat) (line : Raw) : Raw :=
  let front := (if d.named then name ++ [':'] else []) ++
    (if d.numbers then showNat number ++ [':'] else [])
  if d.quiet || d.count || d.names || d.namesWithout then []
  else if d.onlyParts then
    if s.inverted then []
    else (s.partsFrom (line.length + 1) { rest := line }).flatMap fun part => front ++ part ++ ['\n']
  else front ++ line ++ ['\n']

/-- Goes through lines. -/
def Display.lines (d : Display) (s : Search) (name : Raw) :
    List Raw → Progress → List Raw → Progress × Raw
  | [], p, shown => (p, shown.reverse.flatten)
  | line :: rest, p, shown =>
    if d.isEnough s p then (p, shown.reverse.flatten)
    else
      let p := { p with line := p.line + 1 }
      if s.selects line then
        lines d s name rest { p with found := p.found + 1 } (d.line s name p.line line :: shown)
      else lines d s name rest p shown

/-- Goes through what comes from a descriptor. -/
def searchFrom (name subject : Raw) (d : Display) (s : Search) (descriptor : Nat) :
    Nat → Progress → Act (Except IoError Progress)
  | 0, p => return .ok p
  | steps + 1, p => do
    if d.isEnough s p then return .ok p
    match ← ask (.read descriptor 32768) with
    | .error cause => return .error cause
    | .ok bytes =>
      let pieces := fullLines (p.open_ ++ Raw.ofBytes bytes)
      let isLast := bytes.isEmpty
      let rest := match pieces.getLast? with
        | some line => if isLast || line.getLast? == some '\n' then [] else line
        | none => []
      let whole := if rest.isEmpty then pieces else pieces.dropLast
      let (p, shown) := d.lines s subject (whole.map bareLine) p []
      if shown.contains '\x00' then
        complain name (subject ++ ": binary file matches".toList)
        return .ok p
      if !(← put name shown) then return .error .brokenPipe
      if isLast then return .ok p else searchFrom name subject d s descriptor steps { p with open_ := rest }

/-- Shows what was found in a file as a whole. -/
def Display.summary (d : Display) (name : Raw) (p : Progress) : Raw :=
  if d.quiet then []
  else if d.names then (if 0 < p.found then name ++ ['\n'] else [])
  else if d.namesWithout then (if p.found = 0 then name ++ ['\n'] else [])
  else if d.count then
    (if d.named then name ++ [':'] else []) ++ showNat p.found ++ ['\n']
  else []

/-- Goes through files. The result tells whether something was found and whether something went
wrong. -/
def searchAll (name : Raw) (silent : Bool) (d : Display) (s : Search) :
    List Raw → Bool → Bool → Act (Bool × Bool)
  | [], found, failed => return (found, failed)
  | path :: rest, found, failed => do
    if d.quiet && found then return (true, failed)
    let subject := if path == ['-'] then "(standard input)".toList else path
    let fail (cause : IoError) : Act Unit := do
      if !silent then complainOf name subject cause
    match ← openInput path with
    | .error cause =>
      fail cause
      searchAll name silent d s rest found true
    | .ok descriptor =>
      match ← searchFrom name subject d s descriptor tries {} with
      | .error cause =>
        fail cause
        closeInput path descriptor
        searchAll name silent d s rest found true
      | .ok p =>
        closeInput path descriptor
        let _ ← put name (d.summary subject p)
        let isFound := if d.namesWithout then p.found == 0 else 0 < p.found
        searchAll name silent d s rest (found || isFound) failed

/-- Complains about how `grep` was called. -/
def grepMisuse (name : Raw) (message : Option Raw) : Program := do
  if let some message := message then complain name message
  tell 2 ("Usage: ".toList ++ name ++ " [OPTION]... PATTERNS [FILE]...\nTry '".toList ++ name ++
    " --help' for more information.\n".toList)
  return 2

/-- The expression for any of some lines. -/
def anyOf (dialect : Expression.Dialect) (fixed : Bool) :
    List Raw → Except Expression.Fault Expression
  | [] => .ok (.one fun _ => false)
  | [line] => one line
  | line :: rest => do return .either (← one line) (← anyOf dialect fixed rest)
where
  /-- The expression for a line. -/
  one (line : Raw) : Except Expression.Fault Expression :=
    if fixed then
      .ok (line.foldr (fun c e => .sequence (dialect.same (· == c)) e) .empty)
    else (Expression.read dialect line).map (·.1)

/-- The lines of the files that patterns are given in. -/
def patternsOf (name : Raw) : List Given → Act (Option (List Raw))
  | [] => return some []
  | option :: rest => do
    let found ← if option.letter == 'e' then
        pure (some (Text.splitAt '\n' option.value))
      else if option.letter == 'f' then
        match ← contentOf option.value with
        | .ok text => pure (some (bareLines text))
        | .error cause =>
          complainOf name option.value cause
          pure none
      else pure (some [])
    match found with
    | none => return none
    | some found => return (← patternsOf name rest).map (found ++ ·)

/-- Shows the lines of files that expressions fit. -/
def grep (arguments : List Raw) : Program := do
  let name := arguments.headD []
  match parse grepOptions false (arguments.drop 1) with
  | .error fault => grepMisuse name (some fault.message)
  | .ok (options, operands) =>
    let given := has options 'e' || has options 'f'
    match if given then some ([], operands) else operands.head?.map ([·], operands.tail) with
    | none => grepMisuse name none
    | some (first, paths) =>
      match (valueOf? options 'm').map digits? with
      | some none =>
        complain name "invalid max count".toList
        return 2
      | most =>
        match ← patternsOf name options with
        | none => return 2
        | some more =>
          let lines := first.flatMap (Text.splitAt '\n') ++ more
          let kind := (options.reverse.find? fun o => ['E', 'F', 'G'].contains o.letter).map (·.letter)
          let dialect : Expression.Dialect :=
            { extended := kind == some 'E', ignoresCase := has options 'i' || has options 'y' }
          match anyOf dialect (kind == some 'F') lines with
          | .error fault =>
            complain name fault.message.toList
            return 2
          | .ok expression =>
            let s : Search :=
              { expression
                wholeLine := has options 'x'
                wholeWord := has options 'w'
                inverted := has options 'v'
                most := most.join }
            let d : Display :=
              { count := has options 'c'
                names := has options 'l'
                namesWithout := has options 'L'
                numbers := has options 'n'
                quiet := has options 'q'
                onlyParts := has options 'o'
                named := !has options 'h' && (has options 'H' || 1 < paths.length) }
            let (found, failed) ← searchAll name (has options 's') d s
              (if paths.isEmpty then [['-']] else paths) false false
            return if failed && !(d.quiet && found) then 2 else if found then 0 else 1

end Judge.Host.Utility
