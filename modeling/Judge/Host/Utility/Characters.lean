import Judge.Host.Pattern
import Judge.Host.Utility.Ordering

/-!
Utilities that work on the characters and fields of lines.
-/

namespace Judge.Host.Utility

/-- A member of a set of characters as it is written. -/
inductive SetItem where
  | char (c : Char)
  | range (first last : Char)
  | namedClass (name : String)
  /-- A character so many times; as often as it takes, if there is no number. -/
  | times (c : Char) (count : Nat)
  deriving Repr

/-- The escaped character behind a backslash, and what follows. -/
def setEscape : Raw → Char × Raw
  | [] => ('\\', [])
  | c :: rest =>
    let isOctal (c : Char) : Bool := '0' ≤ c && c ≤ '7'
    if isOctal c then
      let digits := (c :: rest).take 3 |>.takeWhile isOctal
      let n := digits.foldl (fun n d => 8 * n + (d.toNat - 48)) 0
      (Char.ofNat (n % 256), (c :: rest).drop digits.length)
    else
      let found := match c with
        | 'a' => '\x07'
        | 'b' => '\x08'
        | 'f' => '\x0c'
        | 'n' => '\n'
        | 'r' => '\r'
        | 't' => '\t'
        | 'v' => '\x0b'
        | c => c
      (found, rest)

/-- The first character of a text, of which escapes count as one. -/
def setChar : Raw → Option (Char × Raw)
  | [] => none
  | '\\' :: rest => some (setEscape rest)
  | c :: rest => some (c, rest)

/-- The item in brackets behind an opening one. -/
def setBracket? (text : Raw) : Option (SetItem × Raw) :=
  match text with
  | ':' :: rest =>
    let name := rest.takeWhile Char.isAlpha
    match rest.drop name.length with
    | ':' :: ']' :: rest => some (.namedClass (String.ofList name), rest)
    | _ => none
  | '=' :: c :: '=' :: ']' :: rest => some (.char c, rest)
  | _ => do
    let (c, rest) ← setChar text
    match rest with
    | '*' :: rest =>
      let digits := rest.takeWhile Char.isDigit
      match rest.drop digits.length with
      | ']' :: rest =>
        let base := if digits.head? == some '0' then 8 else 10
        some (.times c (digits.foldl (fun n d => base * n + (d.toNat - 48)) 0), rest)
      | _ => none
    | _ => none

/-- The items of a set, through at most so many characters. -/
def setItems : Nat → Raw → List SetItem
  | 0, _ => []
  | steps + 1, text =>
    match text with
    | [] => []
    | first :: behind =>
      match if first == '[' then setBracket? behind else none with
      | some (item, rest) => item :: setItems steps rest
      | none =>
        match setChar text with
        | none => []
        | some (c, '-' :: rest) =>
          match setChar rest with
          | some (last, rest) => .range c last :: setItems steps rest
          | none => [.char c, .char '-']
        | some (c, rest) => .char c :: setItems steps rest

/-- All characters in their order. -/
def allChars : List Char := (List.range 256).map Char.ofNat

/-- The characters of an item. -/
def SetItem.chars : SetItem → List Char
  | .char c => [c]
  | .range first last =>
    (List.range (last.toNat + 1 - first.toNat)).map fun i => Char.ofNat (first.toNat + i)
  | .namedClass name =>
    match Pattern.classes.lookup name with
    | some fits => allChars.filter fits
    | none => []
  | .times c count => List.replicate count c

/-- The characters of a set that is to have so many if that is possible. -/
def setChars (size : Nat) (items : List SetItem) : List Char :=
  let fixed := items.foldl (fun n item => n + item.chars.length) 0
  items.flatMap fun
    | .times c 0 => List.replicate (size - fixed) c
    | item => item.chars

/-- Neighbours that are the same and in a set become one. -/
def squeeze (set : List Char) (text : Raw) : Raw :=
  (text.foldl (fun (found : Raw) c =>
    if found.head? == some c && set.contains c then found else c :: found) []).reverse

/-- What becomes of each character when the ones of a set are exchanged for those of another. -/
def exchangeTable (first second : List Char) : Array Char :=
  let pairs := first.zip (second ++ List.replicate (first.length - second.length)
    (second.getLastD ' '))
  pairs.foldl (fun table (c, d) => table.setIfInBounds c.toNat d) allChars.toArray

/-- The first range that goes backwards. -/
def backwards? (items : List SetItem) : Option (Char × Char) :=
  items.findSome? fun
    | .range first last => if last < first then some (first, last) else none
    | _ => none

/-- Exchanges, drops or joins characters. -/
def translate (options : List Given) (first second : Raw) : Raw → Raw :=
  let items := setItems first.length first
  let plain := setChars 0 items
  let chars := if has options 'c' then allChars.filter (!plain.contains ·) else plain
  let secondItems := setItems second.length second
  let others := setChars chars.length secondItems
  let table := exchangeTable chars others
  let members := (exchangeTable chars (chars.map fun _ => '\x01')).toList.zip
    (exchangeTable chars (chars.map fun _ => '\x02')).toList
  let isMember := (members.map fun (a, b) => a != b).toArray
  fun text =>
    if has options 'd' then
      let kept := text.filter fun c => !isMember[c.toNat]?.getD false
      if has options 's' then squeeze others kept else kept
    else if second.isEmpty then squeeze chars text
    else
      let changed := text.map fun c => table[c.toNat]?.getD c
      if has options 's' then squeeze others changed else changed

/-- The options of `tr`. -/
def trOptions : List Known :=
  [⟨'c', "complement", false⟩, ⟨'C', "", false⟩, ⟨'d', "delete", false⟩,
    ⟨'s', "squeeze-repeats", false⟩, ⟨'t', "truncate-set1", false⟩]

/-- Exchanges, drops or joins characters of the input. -/
def tr : List Raw → Program :=
  withOptions trOptions true 1 fun name options operands => do
    let options := options.map fun o => if o.letter == 'C' then { o with letter := 'c' } else o
    let deletes := has options 'd'
    let squeezes := has options 's'
    let extra (message : String) (operand : Raw) (note : String) : Program := do
      complain name (message.toList ++ quoted operand ++
        if note.isEmpty then [] else '\n' :: note.toList)
      tell 2 ("Try '".toList ++ name ++ " --help' for more information.\n".toList)
      return 1
    let run (first second : Raw) : Program := do
      match backwards? (setItems first.length first ++ setItems second.length second) with
      | some (a, b) =>
        complain name ("range-endpoints of '".toList ++ [a, '-', b] ++
          "' are in reverse collating sequence order".toList)
        return 1
      | none =>
        match ← readFrom 0 tries [] with
        | .error cause =>
          complain name ("read error: ".toList ++ wording cause)
          return 1
        | .ok bytes => putAll name (translate options first second (Raw.ofBytes bytes)) 0
    match operands with
    | [] => misuse name "missing operand".toList 1
    | [first] =>
      if deletes && squeezes then
        extra "missing operand after " first
          "Two strings must be given when both deleting and squeezing repeats."
      else if deletes || squeezes then run first []
      else extra "missing operand after " first "Two strings must be given when translating."
    | [first, second] =>
      if deletes && !squeezes then
        extra "extra operand " second
          "Only one string may be given when deleting without squeezing repeats."
      else if second.isEmpty && !squeezes then do
        complain name "when not truncating set1, string2 must be non-empty".toList
        return 1
      else run first second
    | _ :: _ :: third :: _ => extra "extra operand " third ""

/-- A range of numbers from 1 on. -/
structure Span where
  first : Nat
  last : Option Nat
  deriving Repr

/-- The range that a text such as `2-4` gives. -/
def span? (text : Raw) : Except String Span :=
  match Text.cut '-' text with
  | none =>
    match digits? text with
    | some 0 => .error "zero"
    | some n => .ok ⟨n, some n⟩
    | none => .error "invalid"
  | some (first, last) =>
    if first.isEmpty && last.isEmpty then .error "invalid range with no endpoint: -"
    else
      match if first.isEmpty then some 1 else digits? first,
        if last.isEmpty then some none else (digits? last).map some with
      | some 0, some _ => .error "zero"
      | some a, some b =>
        if b.any (· < a) then .error "invalid decreasing range" else .ok ⟨a, b⟩
      | _, _ => .error "invalid"

/-- The options of `cut`. -/
def cutOptions : List Known :=
  [⟨'b', "bytes", true⟩, ⟨'c', "characters", true⟩, ⟨'f', "fields", true⟩,
    ⟨'d', "delimiter", true⟩, ⟨'n', "", false⟩, ⟨'s', "only-delimited", false⟩,
    ⟨'O', "output-delimiter", true⟩, ⟨'C', "complement", false⟩,
    ⟨'z', "zero-terminated", false⟩]

/-- Texts between separators. -/
def fieldsBetween (separator : Char) (line : Raw) : List Raw := Text.splitAt separator line

/-- Writes chosen fields or characters of each line. -/
def cut : List Raw → Program :=
  withOptions cutOptions false 1 fun name options operands => do
    let lists := options.filter fun o => ['b', 'c', 'f'].contains o.letter
    match lists with
    | [] => misuse name "you must specify a list of bytes, characters, or fields".toList 1
    | _ :: _ :: _ => misuse name "only one list may be specified".toList 1
    | [list] =>
      let ofFields := list.letter == 'f'
      let delimiter := (valueOf? options 'd').getD ['\t']
      let pieces := list.value.map fun c => if c == ' ' || c == '\t' then ',' else c
      match (Text.splitAt ',' pieces).mapM span? with
      | .error "zero" =>
        misuse name (if ofFields then "fields are numbered from 1"
          else "byte/character positions are numbered from 1").toList 1
      | .error "invalid" =>
        let bad := ((Text.splitAt ',' pieces).find? fun p => (span? p).toOption.isNone).getD []
        let kind := if ofFields then "invalid field " else "invalid byte/character position "
        misuse name ((if bad.contains '-' then
          (if ofFields then "invalid field range" else "invalid byte or character range").toList
          else kind.toList ++ if bad.isEmpty then "range".toList else "value ".toList ++ quoted bad)) 1
      | .error message => misuse name message.toList 1
      | .ok spans =>
        if has options 'd' && !ofFields then
          misuse name
            "an input delimiter may be specified only when operating on fields".toList 1
        else if delimiter.length > 1 then
          misuse name "the delimiter must be a single character".toList 1
        else
          let separator := delimiter.headD '\x00'
          let joint := (valueOf? options 'O').getD (if ofFields then [separator] else [])
          let wanted (n : Nat) : Bool :=
            (spans.any fun s => s.first ≤ n && s.last.all (n ≤ ·)) != has options 'C'
          let pick {α : Type} (items : List α) : List α :=
            (items.zipIdx 1).filterMap fun (item, n) => if wanted n then some item else none
          let render (line : Raw) : Option Raw :=
            if !ofFields then some (pick line)
            else if !line.contains separator then
              if has options 's' then none else some line
            else some (((pick (fieldsBetween separator line)).intersperse joint).flatten)
          eachContent name operands fun _ content =>
            putAll name (joinLines ((bareLines content).filterMap render)) 0

/-- Writes the lines of files, the last one first. -/
def tac : List Raw → Program :=
  withOptions [⟨'b', "before", false⟩, ⟨'r', "regex", false⟩, ⟨'s', "separator", true⟩] false 1
    fun name _ operands =>
      eachContent name operands fun _ content => putAll name (fullLines content).reverse.flatten 0

/-- Writes each line backwards. -/
def rev : List Raw → Program :=
  withOptions [] false 1 fun name _ operands =>
    eachContent name operands fun _ content =>
      putAll name ((fullLines content).flatMap fun line =>
        (bareLine line).reverse ++ if line.getLast? == some '\n' then ['\n'] else []) 0

/-- Writes lines with their numbers, except for empty ones. -/
def nl : List Raw → Program :=
  withOptions [⟨'b', "body-numbering", true⟩, ⟨'w', "number-width", true⟩,
      ⟨'s', "number-separator", true⟩] false 1 fun name options operands =>
    eachContent name operands fun _ content =>
      let all := valueOf? options 'b' == some ['a']
      let (_, found) := (bareLines content).foldl (fun (n, found) line =>
        if line.isEmpty && !all then (n, "       ".toList :: found)
        else (n + 1, (alignRight 6 (showNat n) ++ '\t' :: line) :: found))
        ((1 : Nat), ([] : List Raw))
      putAll name (joinLines found.reverse) 0

/-- A line broken into pieces of a width. -/
def folded (width : Nat) : Nat → Raw → List Raw
  | 0, line => [line]
  | steps + 1, line =>
    if line.length ≤ width then [line] else line.take width :: folded width steps (line.drop width)

/-- Breaks lines that are too long. -/
def fold : List Raw → Program :=
  withOptions [⟨'w', "width", true⟩, ⟨'b', "bytes", false⟩, ⟨'s', "spaces", false⟩] false 1
    fun name options operands =>
      let width := Nat.max 1 (((valueOf? options 'w').bind digits?).getD 80)
      eachContent name operands fun _ content =>
        putAll name (joinLines ((bareLines content).flatMap fun line =>
          folded width line.length line)) 0

/-- Lines side by side. -/
def pasted (delimiters : List Char) : Nat → List (List Raw) → List Raw
  | 0, _ => []
  | steps + 1, columns =>
    if columns.all (·.isEmpty) then []
    else
      let cells := columns.map (·.headD [])
      let joints := (List.range columns.length).map fun i =>
        delimiters[i % (Nat.max 1 delimiters.length)]?.getD '\t'
      let row := (cells.zip joints).zipIdx.flatMap fun ((cell, joint), i) =>
        cell ++ if i + 1 < columns.length then [joint] else []
      row :: pasted delimiters steps (columns.map (·.drop 1))

/-- Writes the lines of files side by side. -/
def paste : List Raw → Program :=
  withOptions [⟨'d', "delimiters", true⟩, ⟨'s', "serial", false⟩] false 1
    fun name options operands => do
      let delimiters := (setItems 1000 ((valueOf? options 'd').getD ['\t'])).flatMap (·.chars)
      let paths := if operands.isEmpty then [['-']] else operands
      let rec readEach : List Raw → Act (Except (Raw × IoError) (List (List Raw)))
        | [] => return .ok []
        | path :: rest => do
          match ← contentOf path with
          | .error cause => return .error (path, cause)
          | .ok content =>
            match ← readEach rest with
            | .error fault => return .error fault
            | .ok more => return .ok (bareLines content :: more)
      match ← readEach paths with
      | .error (path, cause) =>
        complainOf name path cause
        return 1
      | .ok columns =>
        if has options 's' then
          putAll name (joinLines (columns.map fun lines =>
            (lines.intersperse [delimiters.headD '\t']).flatten)) 0
        else
          let longest := (columns.map List.length).foldl Nat.max 0
          putAll name (joinLines (pasted delimiters longest columns)) 0

end Judge.Host.Utility
