import Judge.Host.Utility.Basic

/-!
Utilities that pass on what they read, as a whole or the first or last part of it.
-/

namespace Judge.Host.Utility

/-- The options of `cat`. -/
def catOptions : List Known :=
  [⟨'b', "number-nonblank", false⟩, ⟨'n', "number", false⟩, ⟨'s', "squeeze-blank", false⟩,
    ⟨'v', "show-nonprinting", false⟩, ⟨'E', "show-ends", false⟩, ⟨'T', "show-tabs", false⟩,
    ⟨'A', "show-all", false⟩, ⟨'e', "", false⟩, ⟨'t', "", false⟩, ⟨'u', "", false⟩]

/-- A character that can be seen in place of one that cannot. -/
def visible (tabs : Bool) (c : Char) : Raw :=
  let plain (n : Nat) : Raw :=
    if n < 32 then ['^', Char.ofNat (n + 64)] else if n = 127 then ['^', '?'] else [Char.ofNat n]
  if c == '\t' then (if tabs then ['^', 'I'] else [c])
  else if c.toNat < 128 then plain c.toNat
  else 'M' :: '-' :: plain (c.toNat - 128)

/-- How `cat` changes lines. -/
structure LineStyle where
  numbers : Bool
  onlyFull : Bool
  squeeze : Bool
  nonprinting : Bool
  ends : Bool
  tabs : Bool

/-- The style that options give. -/
def LineStyle.ofOptions (options : List Given) : LineStyle where
  numbers := has options 'n' || has options 'b'
  onlyFull := has options 'b'
  squeeze := has options 's'
  nonprinting := ['v', 'A', 'e', 't'].any (has options)
  ends := ['E', 'A', 'e'].any (has options)
  tabs := ['T', 'A', 't'].any (has options)

/-- Whether a style leaves everything as it is. -/
def LineStyle.isPlain (style : LineStyle) : Bool :=
  !(style.numbers || style.squeeze || style.nonprinting || style.ends || style.tabs)

/-- The state between lines: the next number and whether the last line was empty. -/
structure LineState where
  next : Nat := 1
  wasEmpty : Bool := false
  /-- Whether the last line has no ending, so that the next one goes on with it. -/
  isOpen : Bool := false

/-- A line in a style. -/
def LineStyle.render (style : LineStyle) (state : LineState) (line : Raw) : LineState × Raw :=
  let isEmpty := line == ['\n'] && !state.isOpen
  if style.squeeze && isEmpty && state.wasEmpty then (state, [])
  else
    let isNumbered := style.numbers && !state.isOpen && !(style.onlyFull && isEmpty)
    let number := if isNumbered then alignRight 6 (showNat state.next) ++ ['\t'] else []
    let body := (bareLine line).flatMap fun c =>
      if style.nonprinting then visible style.tabs c
      else if style.tabs && c == '\t' then ['^', 'I'] else [c]
    let hasEnding := line.getLast? == some '\n'
    let ending := if hasEnding then (if style.ends then ['$', '\n'] else ['\n']) else []
    ({ next := if isNumbered then state.next + 1 else state.next
       wasEmpty := isEmpty
       isOpen := !hasEnding },
      number ++ body ++ ending)

/-- Lines in a style. -/
def LineStyle.renderAll (style : LineStyle) (state : LineState) (lines : List Raw) :
    LineState × Raw :=
  let (state, found) := lines.foldl (fun (state, found) line =>
    let (state, text) := style.render state line
    (state, text :: found)) (state, ([] : List Raw))
  (state, found.reverse.flatten)

/-- Passes on what comes from a descriptor, piece by piece. -/
def passOn (name subject : Raw) (descriptor : Nat) : Nat → Act (Option Nat)
  | 0 => return none
  | steps + 1 => do
    match ← ask (.read descriptor 131072) with
    | .error cause =>
      complainOf name subject cause
      return none
    | .ok bytes =>
      if bytes.isEmpty then return some 0
      else match ← ask (.write 1 bytes) with
        | .ok _ => passOn name subject descriptor steps
        | .error cause =>
          complain name ("write error: ".toList ++ wording cause)
          return some 1

/-- Passes on files one after the other; none stops it but the output. -/
def catFrom (name : Raw) (style : LineStyle) (state : LineState) (status : Nat) :
    List Raw → Program
  | [] => return status
  | path :: rest => do
    match ← openInput path with
    | .error cause =>
      complainOf name path cause
      catFrom name style state 1 rest
    | .ok descriptor =>
      if style.isPlain then
        match ← passOn name path descriptor tries with
        | none =>
          closeInput path descriptor
          catFrom name style state 1 rest
        | some 0 =>
          closeInput path descriptor
          catFrom name style state status rest
        | some failure => return failure
      else
        match ← readFrom descriptor tries [] with
        | .error cause =>
          complainOf name path cause
          closeInput path descriptor
          catFrom name style state 1 rest
        | .ok bytes =>
          closeInput path descriptor
          let (state, text) := style.renderAll state (fullLines (Raw.ofBytes bytes))
          if ← put name text then catFrom name style state status rest else return 1

/-- Passes on files one after the other. -/
def cat : List Raw → Program :=
  withOptions catOptions false 1 fun name options operands => do
    let style := LineStyle.ofOptions options
    let paths := if operands.isEmpty then [['-']] else operands
    let status ← catFrom name style {} 0 paths
    match ← ask (.lookAt 0) with
    | .error cause =>
      if paths.contains ['-'] then
        complain name ("closing standard input: ".toList ++ wording cause)
        return 1
      else return status
    | .ok _ => return status

/-- A part of a file: so many lines or bytes from its start or its end on, or all but so many. -/
structure Extent where
  bytes : Bool := false
  count : Nat := 10
  /-- Whether the count was given with the sign that turns its meaning around. -/
  turned : Bool := false

/-- The factor that a letter behind a number stands for. -/
def unit? : Raw → Option Nat
  | [] => some 1
  | ['b'] => some 512
  | ['k'] | ['K'] | ['K', 'i', 'B'] => some 1024
  | ['k', 'B'] | ['K', 'B'] => some 1000
  | ['M'] | ['m'] | ['M', 'i', 'B'] => some 1048576
  | ['M', 'B'] => some 1000000
  | ['G'] | ['G', 'i', 'B'] => some 1073741824
  | ['G', 'B'] => some 1000000000
  | _ => none

/-- A number with a unit. -/
def sized? (text : Raw) : Option Nat := do
  let n ← digits? (text.takeWhile Char.isDigit)
  let factor ← unit? (text.dropWhile Char.isDigit)
  return n * factor

/-- An extent with a sign that turns its meaning around. -/
def extent? (bytes : Bool) (turning : Char) (text : Raw) : Option Extent :=
  match text with
  | c :: rest =>
    if c == turning then (sized? rest).map fun count => { bytes, count, turned := true }
    else if c == '-' || c == '+' then (sized? rest).map fun count => { bytes, count }
    else (sized? text).map fun count => { bytes, count }
  | [] => none

/-- The old way of giving a count: a hyphen with digits in front. -/
def oldCount (arguments : List Raw) : List Raw :=
  match arguments with
  | ('-' :: d :: digits) :: rest =>
    if d.isDigit && digits.all Char.isDigit then
      ['-', 'n'] :: (d :: digits) :: rest
    else arguments
  | _ => arguments

/-- The options of `head` and `tail`. -/
def partOptions : List Known :=
  [⟨'c', "bytes", true⟩, ⟨'n', "lines", true⟩, ⟨'q', "quiet", false⟩, ⟨'v', "verbose", false⟩,
    ⟨'z', "zero-terminated", false⟩]

/-- The extent that options ask for, or the text that is none. -/
def readExtent (turning : Char) (options : List Given) : Except (Bool × Raw) Extent :=
  match (options.filter fun o => o.letter == 'n' || o.letter == 'c').getLast? with
  | none => .ok {}
  | some o =>
    let bytes := o.letter == 'c'
    match extent? bytes turning o.value with
    | some extent => .ok extent
    | none => .error (bytes, o.value)

/-- Shows which file the following is from. -/
def banner (name path : Raw) (first : Bool) : Act Unit := do
  let shown := if path == ['-'] then "standard input".toList else path
  let _ ← put name ((if first then [] else ['\n']) ++ "==> ".toList ++ shown ++ " <==\n".toList)

/-- What is read until so many lines or bytes are there, in reverse. -/
def readUntil (bytes : Bool) (count descriptor : Nat) :
    Nat → Nat → List Bytes → Act (Except IoError Bytes)
  | 0, _, found => return .ok found.reverse.flatten
  | steps + 1, seen, found => do
    if count ≤ seen then return .ok found.reverse.flatten
    else match ← ask (.read descriptor 1024) with
      | .error cause => return .error cause
      | .ok piece =>
        if piece.isEmpty then return .ok found.reverse.flatten
        else
          let more := if bytes then piece.length else piece.count 10
          readUntil bytes count descriptor steps (seen + more) (piece :: found)

/-- The first part of a text. -/
def firstPart (extent : Extent) (text : Raw) : Raw :=
  if extent.bytes then
    text.take (if extent.turned then text.length - extent.count else extent.count)
  else
    let lines := fullLines text
    (lines.take (if extent.turned then lines.length - extent.count else extent.count)).flatten

/-- The last part of a text. -/
def lastPart (extent : Extent) (text : Raw) : Raw :=
  if extent.bytes then
    text.drop (if extent.turned then extent.count - 1 else text.length - extent.count)
  else
    let lines := fullLines text
    (lines.drop (if extent.turned then extent.count - 1 else lines.length - extent.count)).flatten

/-- Writes a part of each file. -/
def parts (name : Raw) (options : List Given) (first : Bool) (read : Nat → Act (Except IoError Bytes))
    (part : Raw → Raw) (isLater : Bool) (several : Bool) : List Raw → Program
  | [] => return 0
  | path :: rest => do
    match ← openInput path with
    | .error cause =>
      complain name ("cannot open ".toList ++ quoted path ++ " for reading: ".toList ++
        wording cause)
      let status ← parts name options first read part isLater several rest
      return Nat.max 1 status
    | .ok descriptor =>
      if has options 'v' || (several && !has options 'q') then banner name path (!isLater)
      match ← read descriptor with
      | .error cause =>
        complain name ("error reading ".toList ++ quoted path ++ ": ".toList ++ wording cause)
        closeInput path descriptor
        let status ← parts name options first read part true several rest
        return Nat.max 1 status
      | .ok bytes =>
        closeInput path descriptor
        if ← put name (part (Raw.ofBytes bytes)) then
          parts name options first read part true several rest
        else return 1

/-- Complains about an extent. -/
def badExtent (name : Raw) (bytes : Bool) (text : Raw) : Program := do
  complain name ((if bytes then "invalid number of bytes: " else "invalid number of lines: ").toList
    ++ quoted text)
  return 1

/-- Writes the first part of each file. -/
def head (arguments : List Raw) : Program :=
  withOptions partOptions false 1 (fun name options operands => do
    match readExtent '-' options with
    | .error (bytes, text) => badExtent name bytes text
    | .ok extent =>
      let read (descriptor : Nat) : Act (Except IoError Bytes) :=
        if extent.turned then readFrom descriptor tries []
        else readUntil extent.bytes extent.count descriptor tries 0 []
      parts name options true read (firstPart extent) false (1 < operands.length)
        (if operands.isEmpty then [['-']] else operands))
    (arguments.take 1 ++ oldCount (arguments.drop 1))

/-- Writes the last part of each file. -/
def tail (arguments : List Raw) : Program :=
  let rest := match arguments.drop 1 with
    | ('+' :: digits) :: rest =>
      if (digits? digits).isSome then ['-', 'n'] :: ('+' :: digits) :: rest
      else arguments.drop 1
    | rest => oldCount rest
  withOptions partOptions false 1 (fun name options operands => do
    match readExtent '+' options with
    | .error (bytes, text) => badExtent name bytes text
    | .ok extent =>
      parts name options false (readFrom · tries []) (lastPart extent) false (1 < operands.length)
        (if operands.isEmpty then [['-']] else operands))
    (arguments.take 1 ++ rest)

/-- Copies the input to the output and to files. -/
def teeOn (name : Raw) (targets : List (Raw × Nat)) : Nat → Nat → Program
  | 0, status => return status
  | steps + 1, status => do
    match ← ask (.read 0 131072) with
    | .error cause =>
      complain name ("read error: ".toList ++ wording cause)
      return 1
    | .ok bytes =>
      if bytes.isEmpty then return status
      else
        let written ← worst (fun (path, descriptor) => do
          match ← ask (.write descriptor bytes) with
          | .ok _ => return 0
          | .error cause =>
            complainOf name path cause
            return 1) targets
        teeOn name targets steps (Nat.max status written)

/-- Opens the files that the input is copied to. -/
def openTargets (name : Raw) (mode : OpenMode) : List Raw → Act (Nat × List (Raw × Nat))
  | [] => return (0, [])
  | path :: rest => do
    match ← ask (.openFile path mode) with
    | .ok descriptor =>
      let (status, more) ← openTargets name mode rest
      return (status, (path, descriptor) :: more)
    | .error cause =>
      complainOf name path cause
      let (_, more) ← openTargets name mode rest
      return (1, more)

/-- Copies the input to the output and to files. -/
def tee : List Raw → Program :=
  withOptions [⟨'a', "append", false⟩, ⟨'i', "ignore-interrupts", false⟩, ⟨'p', "", false⟩] false 1
    fun name options operands => do
      let mode := if has options 'a' then OpenMode.append else OpenMode.write
      let (status, targets) ← openTargets name mode operands
      teeOn name (("'standard output'".toList, 1) :: targets) tries status

end Judge.Host.Utility
