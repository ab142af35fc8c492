import Judge.Host.FileTree
import Judge.Path

/-!
The host: its files, the directory that relative paths start from, and the directories in which
programs are looked for.
-/

namespace Judge

/-- A host. -/
structure Host where
  tree : Host.FileTree := {}
  /-- Where relative paths start. -/
  directory : Host.Location := []
  /-- Where programs are looked for. -/
  searchPath : List String := []
  /-- The directory of the user. -/
  home : String := "/"
  deriving Repr, Inhabited

namespace Host

/-- Goes along the pieces of a path. Nothing is above the root. -/
def follow (location : Location) : List (List Char) → Location
  | [] => location
  | [] :: rest | ['.'] :: rest => follow location rest
  | ['.', '.'] :: rest => follow location.dropLast rest
  | name :: rest => follow (location ++ [String.ofList name]) rest

/-- The location that the text of a path leads to, whatever is there. -/
def locate (host : Host) (path : String) : Location :=
  follow (if Path.isAbsolute path then [] else host.directory) (Text.splitAt '/' path.toList)

/-- A location as a path. -/
def showLocation (location : Location) : String := "/" ++ String.intercalate "/" location

/-- The location that a path leads to. -/
def resolve (host : Host) (path : String) : Except IoError Location :=
  host.tree.resolve true host.directory path

/-- What a path leads to. -/
def stat (host : Host) (path : String) : Except IoError Node := do
  host.tree.stat (← host.resolve path)

/-- Whether there is anything at a path. -/
def holds (host : Host) (path : String) : Bool := (host.stat path).toOption.isSome

/-- Whether there is a file that can be run at a path. -/
def isProgram (host : Host) (path : String) : Bool :=
  match host.stat path with
  | .ok (.file _ mode) => mode &&& 0o111 != 0
  | _ => false

/-- The path of a program with a name. -/
def findProgram (host : Host) (name : String) : Option String :=
  (host.searchPath.map (Path.join · name)).find? host.isProgram

/-- Reads the file at a path. -/
def fetch (host : Host) (path : String) : Except IoError Content := do
  host.tree.read (← host.resolve path)

/-- Whether a path ends with a separator, as only that of a directory does. -/
def endsWithSeparator (path : String) : Bool := path.toList.getLast? == some '/'

/-- Where a file is written to that a path names. -/
def resolveTarget (host : Host) (path : String) : Except IoError Location := do
  if endsWithSeparator path then
    let bare := (path.dropEndWhile '/').toString
    let _ ← host.resolve (if bare.isEmpty then "/" else bare)
    throw .isDirectory
  host.resolve path

/-- Writes a file at a path. -/
def deliver (host : Host) (path : String) (content : Content) : Except IoError Host := do
  return { host with tree := ← host.tree.write (← host.resolveTarget path) content }

/-- Makes the directories that are missing on the way along names from a directory. -/
def makeAlong (tree : FileTree) (here : Location) : List String → Except IoError FileTree
  | [] => .ok tree
  | name :: rest => do
    let place ← tree.resolve true here (if name.isEmpty then "." else name)
    match tree.lookup place with
    | some (.directory _) => makeAlong tree place rest
    | some _ => throw (if rest.isEmpty then .exists else .notDirectory)
    | none => makeAlong (← tree.add place (.directory 0o755)) place rest

/-- Makes the directory at a path with those above it. -/
def makeDirectories (host : Host) (path : String) : Except IoError Host := do
  if path.contains '\x00' then throw .nulInName
  if 4096 ≤ path.utf8ByteSize then throw .nameTooLong
  let start := if Path.isAbsolute path then [] else host.directory
  return { host with tree := ← makeAlong host.tree start (FileTree.namesOf path) }

/-- Makes the directories above a path. -/
def makeParents (host : Host) (path : String) : Except IoError Host :=
  host.makeDirectories (Path.parent path)

/-- Sets the permissions of the file at a path. -/
def setMode (host : Host) (path : String) (mode : Nat) : Except IoError Host := do
  return { host with tree := ← host.tree.setMode (← host.resolve path) mode }

/-- Removes the file at a path. -/
def remove (host : Host) (path : String) : Except IoError Host := do
  let place ← host.tree.resolve false host.directory path
  return { host with tree := ← host.tree.removeFile place }

/-- An action on a host, which may fail; what it did before failing stays. -/
abbrev Action (ε α : Type) := ExceptT ε (StateM Host) α

/-- Changes the host, or fails with an error made from the cause. -/
def change {ε : Type} (step : Host → Except IoError Host) (failure : IoError → ε) :
    Action ε Unit := do
  match step (← get) with
  | .ok host => set host
  | .error cause => throw (failure cause)

/-- Changes the host if that is possible. -/
def tryChange {ε : Type} (step : Host → Except IoError Host) : Action ε Unit := do
  match step (← get) with
  | .ok host => set host
  | .error _ => pure ()

/-- Stores a file with the directories above it. -/
def store (path : String) (data : Bytes) (executable : Bool) : Action IoError Unit := do
  change (·.makeParents path) id
  change (·.deliver path (.plain data)) id
  if executable then change (·.setMode path 0o755) id

/-- Stores a file with the directories above it, given the host. -/
def storeFile (host : Host) (path : String) (data : Bytes) (executable : Bool) :
    Except IoError Unit × Host :=
  (store path data executable).run host

/-- A host with a file added, if that is possible. -/
def withFile (host : Host) (path : String) (data : Bytes) (executable : Bool) : Host :=
  (host.storeFile path data executable).2

/-- A host with a directory added, if that is possible. -/
def withDirectory (host : Host) (path : String) : Host :=
  (host.makeDirectories path).toOption.getD host

/-- The bytes of the file at a path, and whether it can be run. -/
def fileAt? (host : Host) (path : String) : Option (Bytes × Bool) :=
  match host.stat path with
  | .ok (.file content mode) => some (content.bytes, mode &&& 0o111 != 0)
  | _ => none

end Host
end Judge
