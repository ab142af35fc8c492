import Judge.Archive.Container.Reader
import Judge.Compression.Gzip
import Judge.Text.Lines

/-!
Trees of files. A tree maps locations, lists of names from the root, to files, directories and links;
the root itself is always a directory. Every operation fails the way an operating system does, and
one that fails leaves the tree as it is. Paths are resolved to locations, which goes through links.
-/

namespace Judge.Host

/-- What a file holds. Containers are kept as what they contain. -/
inductive Content where
  | plain (bytes : Bytes)
  | gzip (bytes : Bytes)
  | zip (entries : List Archive.Entry)
  deriving DecidableEq, Repr

namespace Content

/-- The bytes of a file. -/
def bytes : Content → Bytes
  | .plain bytes => bytes
  | .gzip bytes => Compression.Gzip.compress bytes
  | .zip entries => Archive.Container.write entries

/-- The stream that comes out of a compressed file. -/
def decompressed : Content → Source
  | .gzip bytes => ⟨bytes, none⟩
  | content => Compression.Gzip.decompress content.bytes

/-- The entries of a zip file. -/
def entries : Content → Except Archive.ZipError (List Archive.Entry)
  | .zip entries => .ok entries
  | content => Archive.Container.read content.bytes

end Content

/-- A file or a directory, with its permissions, or a link to another path. -/
inductive Node where
  | file (content : Content) (mode : Nat)
  | directory (mode : Nat)
  | link (target : String)
  deriving DecidableEq, Repr

/-- The names on the way from the root. -/
abbrev Location := List String

/-- A tree of files. -/
structure FileTree where
  nodes : List (Location × Node) := []
  deriving Repr, Inhabited

namespace FileTree

/-- What is at a location. -/
def lookup (tree : FileTree) (location : Location) : Option Node :=
  if location.isEmpty then some (.directory 0o755)
  else (tree.nodes.find? fun e => e.1 == location).map (·.2)

/-- Puts something at a location. -/
def put (tree : FileTree) (location : Location) (node : Node) : FileTree :=
  ⟨(location, node) :: tree.nodes.filter fun e => e.1 != location⟩

/-- Takes away what is at a location. -/
def erase (tree : FileTree) (location : Location) : FileTree :=
  ⟨tree.nodes.filter fun e => e.1 != location⟩

/-- Whether there is a directory at a location. -/
def isDirectory (tree : FileTree) (location : Location) : Bool :=
  match tree.lookup location with
  | some (.directory _) => true
  | _ => false

/-- Whether there is anything at a location. -/
def exists? (tree : FileTree) (location : Location) : Bool := (tree.lookup location).isSome

/-- Checks that a name can be that of a file. -/
def checkName (name : String) : Except IoError Unit :=
  if 255 < name.utf8ByteSize then .error .nameTooLong else .ok ()

/-- Checks that a location holds a directory. -/
def checkDirectory (tree : FileTree) (location : Location) : Except IoError Unit :=
  match tree.lookup location with
  | some (.directory _) => .ok ()
  | some _ => .error .notDirectory
  | none => .error .missing

/-- Checks that names lead through directories, from a directory on. -/
def checkThrough (tree : FileTree) (above : Location) : Location → Except IoError Unit
  | [] => .ok ()
  | name :: rest => do
    checkName name
    checkDirectory tree (above ++ [name])
    checkThrough tree (above ++ [name]) rest

/-- Checks that a location can be reached: everything above it is a directory. -/
def checkReach (tree : FileTree) (location : Location) : Except IoError Unit := do
  checkThrough tree [] location.dropLast
  match location.getLast? with
  | some name => checkName name
  | none => pure ()

/-- What is at a location that must be reachable. -/
def stat (tree : FileTree) (location : Location) : Except IoError Node := do
  checkReach tree location
  match tree.lookup location with
  | some node => return node
  | none => throw .missing

/-- The content of a file. -/
def read (tree : FileTree) (location : Location) : Except IoError Content := do
  match ← tree.stat location with
  | .file content _ => return content
  | .directory _ => throw .isDirectory
  | .link _ => throw .tooManyLinks

/-- Writes a file, keeping the permissions of an old one. -/
def write (tree : FileTree) (location : Location) (content : Content) :
    Except IoError FileTree := do
  checkReach tree location
  match tree.lookup location with
  | some (.file _ mode) => return tree.put location (.file content mode)
  | some (.directory _) => throw .isDirectory
  | some (.link _) => throw .tooManyLinks
  | none => return tree.put location (.file content 0o644)

/-- Sets the permissions of what is at a location. -/
def setMode (tree : FileTree) (location : Location) (mode : Nat) : Except IoError FileTree := do
  match ← tree.stat location with
  | .file content _ => return tree.put location (.file content mode)
  | .directory _ => return tree.put location (.directory mode)
  | .link _ => throw .tooManyLinks

/-- Puts something where nothing is. -/
def add (tree : FileTree) (location : Location) (node : Node) : Except IoError FileTree := do
  checkReach tree location
  match tree.lookup location with
  | some _ => throw .exists
  | none => return tree.put location node

/-- Makes the directories that are missing below one that exists. -/
def makeDirectoriesFrom (tree : FileTree) (above : Location) : Location → Except IoError FileTree
  | [] => .ok tree
  | name :: rest => do
    checkName name
    let here := above ++ [name]
    match tree.lookup here with
    | some (.directory _) => makeDirectoriesFrom tree here rest
    | some _ => throw (if rest.isEmpty then .exists else .notDirectory)
    | none => makeDirectoriesFrom (tree.put here (.directory 0o755)) here rest

/-- Makes a directory with all directories above it; one that exists is left alone. -/
def makeDirectories (tree : FileTree) (location : Location) : Except IoError FileTree :=
  makeDirectoriesFrom tree [] location

/-- Removes a file or a link. -/
def removeFile (tree : FileTree) (location : Location) : Except IoError FileTree := do
  match ← tree.stat location with
  | .directory _ => throw .isDirectory
  | _ => return tree.erase location

/-- Removes what is at a location with everything below it. -/
def removeTree (tree : FileTree) (location : Location) : FileTree :=
  ⟨tree.nodes.filter fun e => !location.isPrefixOf e.1⟩

/-- Whether nothing is below a location. -/
def isEmptyAt (tree : FileTree) (location : Location) : Bool :=
  tree.nodes.all fun e => e.1 == location || !location.isPrefixOf e.1

/-- Removes an empty directory. -/
def removeDirectory (tree : FileTree) (location : Location) : Except IoError FileTree := do
  match ← tree.stat location with
  | .directory _ =>
    if tree.isEmptyAt location then return tree.erase location else throw .notEmpty
  | _ => throw .notDirectory

/-- Moves a file or a link, replacing one that is there. -/
def rename (tree : FileTree) (source target : Location) : Except IoError FileTree := do
  match ← tree.stat source with
  | .directory _ => throw .isDirectory
  | node =>
    checkReach tree target
    if tree.isDirectory target then throw .isDirectory
    return (tree.erase source).put target node

/-- Moves a directory with what is below it to where nothing or an empty directory is. -/
def moveDirectory (tree : FileTree) (source target : Location) : Except IoError FileTree := do
  checkReach tree target
  if source.isPrefixOf target && source != target then throw .invalid
  match tree.lookup target with
  | some (.directory _) => if !tree.isEmptyAt target then throw .notEmpty
  | some _ => throw .notDirectory
  | none => pure ()
  return ⟨(tree.erase target).nodes.map fun (location, node) =>
    (if source.isPrefixOf location then target ++ location.drop source.length else location, node)⟩

/-- The names of what is in a directory, in ascending order. -/
def names (tree : FileTree) (location : Location) : List String :=
  (tree.nodes.filterMap fun (place, _) =>
    if place.dropLast == location && !place.isEmpty then place.getLast? else none).mergeSort
      fun a b => !decide (b < a)

/-- The files below a location, with their paths from there, in ascending order. -/
def filesBelow (tree : FileTree) (location : Location) : List String :=
  (tree.nodes.filterMap fun (place, node) =>
    match node with
    | .file _ _ =>
      if location.isPrefixOf place then
        some (String.intercalate "/" (place.drop location.length))
      else none
    | _ => none).mergeSort fun a b => !decide (b < a)

/-- How many links a path may lead through. -/
def linkLimit : Nat := 40

/-- The names that a path consists of. -/
def namesOf (path : String) : List String := (Text.splitAt '/' path.toList).map String.ofList

/-- Goes along names from a location, and along `through` where a link is met. An empty name and a
single dot stay, two dots lead up, and nothing is above the root; each name needs a directory to be
looked up in. A link at the end is gone along if `follow` is set. -/
def walkWith (through : Location → List String → Except IoError Location) (tree : FileTree)
    (follow : Bool) : Location → List String → Except IoError Location
  | here, [] => .ok here
  | here, name :: rest => do
    checkDirectory tree here
    if name.isEmpty || name == "." then walkWith through tree follow here rest
    else if name == ".." then walkWith through tree follow here.dropLast rest
    else
      checkName name
      let next := here ++ [name]
      match tree.lookup next with
      | some (.link target) =>
        let start := if target.toList.head? == some '/' then [] else here
        if rest.isEmpty && !follow then return next
        else through start (namesOf target ++ rest)
      | _ => walkWith through tree follow next rest

/-- Goes along names from a location, through at most so many links. -/
def walk (tree : FileTree) (follow : Bool) : Nat → Location → List String → Except IoError Location
  | 0, _, _ => .error .tooManyLinks
  | links + 1, here, names => walkWith (walk tree follow links) tree follow here names

/-- The location that a path leads to from a directory. There need not be anything at it. -/
def resolve (tree : FileTree) (follow : Bool) (directory : Location) (path : String) :
    Except IoError Location :=
  if path.contains '\x00' then .error .nulInName
  else if path.isEmpty then .error .missing
  else if 4096 ≤ path.utf8ByteSize then .error .nameTooLong
  else walk tree follow linkLimit (if path.toList.head? == some '/' then [] else directory)
    (namesOf path)

theorem find?_filter_ne {nodes : List (Location × Node)} {location other : Location}
    (h : location ≠ other) :
    (nodes.filter fun e => e.1 != location).find? (fun e => e.1 == other) =
      nodes.find? fun e => e.1 == other := by
  induction nodes with
  | nil => rfl
  | cons e rest ih =>
    by_cases he : e.1 = location
    · have : (e.1 == other) = false := by simpa [he] using h
      simp [he, h, ih]
    · by_cases ho : e.1 = other
      · simp [ho, Ne.symm h]
      · simp [he, ho, ih]

/-- A location holds what was put there last. -/
theorem lookup_put (tree : FileTree) {location other : Location} (node : Node)
    (h : location ≠ []) :
    (tree.put location node).lookup other =
      if location = other then some node else tree.lookup other := by
  unfold lookup put
  by_cases ho : other = []
  · subst ho; simp [h]
  · by_cases he : location = other
    · subst he; simp [ho]
    · have : (location == other) = false := by simpa using he
      simp only [List.isEmpty_iff, ho, if_false, he, List.find?_cons, this]
      rw [find?_filter_ne he]

end FileTree
end Judge.Host
