import Judge.Host.Utility.Options

/-!
What utilities have in common: complaints under the name that they were called by, and reading and
writing streams.
-/

namespace Judge.Host.Utility

/-- Complains. -/
def complain (name message : Raw) : Act Unit := tell 2 (name ++ ": ".toList ++ message ++ ['\n'])

/-- Complains about something of the system. -/
def complainOf (name subject : Raw) (cause : IoError) : Act Unit :=
  complain name (subject ++ ": ".toList ++ wording cause)

/-- A text in single quotes. -/
def quoted (text : Raw) : Raw := '\'' :: text ++ ['\'']

/-- Complains about how a utility was called, and ends. -/
def misuse (name message : Raw) (status : Nat) : Program := do
  complain name message
  tell 2 ("Try '".toList ++ name ++ " --help' for more information.\n".toList)
  return status

/-- A utility with options. -/
def withOptions (known : List Known) (inFront : Bool) (failure : Nat)
    (body : Raw → List Given → List Raw → Program) (arguments : List Raw) : Program :=
  let name := arguments.headD []
  match parse known inFront (arguments.drop 1) with
  | .error fault => misuse name fault.message failure
  | .ok (options, operands) => body name options operands

/-- Writes a text to the output. The result tells whether that went well. -/
def put (name text : Raw) : Act Bool := do
  if text.isEmpty then return true
  match ← ask (.write 1 (Raw.toBytes text)) with
  | .ok _ => return true
  | .error cause =>
    complain name ("write error: ".toList ++ wording cause)
    return false

/-- Writes a text, and ends with a status. -/
def putAll (name text : Raw) (status : Nat) : Program := do
  return if ← put name text then status else Nat.max status 1

/-- How often something is tried. -/
def tries : Nat := 1000000000

/-- Reads from a descriptor to its end. -/
def readFrom (descriptor : Nat) : Nat → List Bytes → Act (Except IoError Bytes)
  | 0, found => return .ok found.reverse.flatten
  | steps + 1, found => do
    match ← ask (.read descriptor 65536) with
    | .ok bytes =>
      if bytes.isEmpty then return .ok found.reverse.flatten
      else readFrom descriptor steps (bytes :: found)
    | .error cause => return .error cause

/-- Opens the file at a path for reading; a hyphen means the input. -/
def openInput (path : Raw) : Act (Except IoError Nat) :=
  if path == ['-'] then return .ok 0 else ask (.openFile path .read)

/-- Closes a descriptor that was opened for a path. -/
def closeInput (path : Raw) (descriptor : Nat) : Act Unit := do
  if path != ['-'] then
    let _ ← ask (.close descriptor)

/-- The content of the file at a path, or of the input for a hyphen. -/
def contentOf (path : Raw) : Act (Except IoError Raw) := do
  match ← openInput path with
  | .error cause => return .error cause
  | .ok descriptor =>
    let content ← readFrom descriptor tries []
    closeInput path descriptor
    return content.map Raw.ofBytes

/-- Does something for each member of a list. The result is the greatest status. -/
def worst {α : Type} (action : α → Program) : List α → Program
  | [] => return 0
  | a :: rest => do
    let status ← action a
    return Nat.max status (← worst action rest)

/-- Does something with the content of each path, that of the input if there is none. -/
def eachContent (name : Raw) (paths : List Raw) (action : Raw → Raw → Program) : Program :=
  worst (fun path => do
    match ← contentOf path with
    | .ok content => action path content
    | .error cause =>
      complainOf name path cause
      return 1) (if paths.isEmpty then [['-']] else paths)

/-- Lines with their endings, behind those that were found before, in reverse; the last one may have
none. -/
def linesFrom (current : Raw) (found : List Raw) : Raw → List Raw
  | [] => (if current.isEmpty then found else current.reverse :: found).reverse
  | c :: rest =>
    if c == '\n' then linesFrom [] ((c :: current).reverse :: found) rest
    else linesFrom (c :: current) found rest

/-- Lines with their endings; the last one may have none. -/
def fullLines (text : Raw) : List Raw := linesFrom [] [] text

/-- A line without its ending. -/
def bareLine (line : Raw) : Raw := if line.getLast? == some '\n' then line.dropLast else line

/-- Lines without their endings. -/
def bareLines (text : Raw) : List Raw := (fullLines text).map bareLine

/-- Lines with an ending each. -/
def joinLines (lines : List Raw) : Raw := lines.flatMap (· ++ ['\n'])

/-- A number as text. -/
def showNat (n : Nat) : Raw := (toString n).toList

/-- The number that a text of digits is. -/
def digits? (text : Raw) : Option Nat :=
  if !text.isEmpty && text.all Char.isDigit then (String.ofList text).toNat? else none

/-- A text brought to a width with blanks in front. -/
def alignRight (width : Nat) (text : Raw) : Raw :=
  List.replicate (width - text.length) ' ' ++ text

end Judge.Host.Utility
