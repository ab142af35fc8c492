import Judge.Host.Machine

/-!
Opening, reading and writing files on the machine.
-/

namespace Judge.Host.Machine

/-- The tree after something was done with it. -/
def withTree (m : Machine) (tree : FileTree) : Machine := { m with tree, stamp := m.stamp + 1 }

/-- The location that a path leads to for a process. -/
def resolve (m : Machine) (p : Process) (follow : Bool) (path : Raw) : Except IoError Location :=
  m.tree.resolve follow p.directory (Raw.toString path)

/-- Where a file is written to that a path names. -/
def resolveTarget (m : Machine) (p : Process) (path : Raw) : Except IoError Location :=
  { tree := m.tree, directory := p.directory : Host }.resolveTarget (Raw.toString path)

/-- The bytes of the file at a location. -/
def contentAt (m : Machine) (place : Location) : Bytes :=
  match m.tree.lookup place with
  | some (.file content _) => content.bytes
  | _ => []

/-- The devices that are files of the host. -/
def device? : Location → Option OpenFile
  | ["dev", "null"] => some .null
  | ["dev", "zero"] => some .zero
  | ["dev", "full"] => some .full
  | _ => none

/-- The directory of the descriptors of the process that looks. -/
def descriptorDirectory : Location := ["proc", "self", "fd"]

/-- The descriptor that a location stands for. -/
def descriptorAt? (place : Location) : Option Nat :=
  if place.dropLast == descriptorDirectory then place.getLast?.bind String.toNat? else none

/-- Opens the file at a location. -/
def openAt (m : Machine) (p : Process) (place : Location) (mode : OpenMode) :
    Except IoError (OpenFile × Machine) := do
  if let some device := device? place then return (device, m)
  let opened (m : Machine) : OpenFile × Machine := (.file place 0 mode m.stamp (m.contentAt place), m)
  match mode, m.tree.lookup place with
  | .read, _ =>
    match ← m.tree.stat place with
    | .directory _ => return (.directory place, m)
    | _ => return opened m
  | .create, some _ => throw .exists
  | _, some (.directory _) => throw .isDirectory
  | .write, some _ => return opened (m.withTree (← m.tree.write place (.plain [])))
  | _, some _ => return opened m
  | _, none =>
    let tree ← m.tree.write place (.plain [])
    return opened (m.withTree (← tree.setMode place (0o666 &&& (0o777 ^^^ p.mask))))

/-- Opens the file at a path. Gives the place among the open files. -/
def openPath (m : Machine) (p : Process) (path : Raw) (mode : OpenMode) :
    Except IoError (Nat × Machine) := do
  let place ← if mode = .read then m.resolve p true path else m.resolveTarget p path
  let opening (place : Location) : Except IoError (Nat × Machine) := do
    let (file, m) ← m.openAt p place mode
    return (m.files.size, { m with files := m.files.push file })
  match descriptorAt? place with
  | none => opening place
  | some number =>
    match m.openFile? p number with
    | none => throw .missing
    | some (_, .file place _ _ _ _) | some (_, .directory place) => opening place
    | some (index, _) => return (index, m)

/-- Bytes with others written over them from a position on. -/
def overwrite (old new : Bytes) (position : Nat) : Bytes :=
  if position = old.length then old ++ new
  else
    let front := old.take position
    front ++ List.replicate (position - front.length) 0 ++ new ++ old.drop (position + new.length)

/-- What a reader finds. -/
inductive ReadResult where
  | bytes (bytes : Bytes) (m : Machine)
  | fault (cause : IoError)
  /-- There is nothing yet. -/
  | notYet

/-- Reads from an open file. -/
def readFile (m : Machine) (index : Nat) (file : OpenFile) (limit : Nat) : ReadResult :=
  match file with
  | .null => .bytes [] m
  | .zero => .bytes (List.replicate limit 0) m
  | .full => .bytes (List.replicate limit 0) m
  | .collector _ | .pipeWriter _ => .fault .badDescriptor
  | .directory _ => .fault .isDirectory
  | .file place position mode stamp behind =>
    if mode != .read && mode != .update then .fault .badDescriptor
    else
      let behind := if stamp = m.stamp then behind else (m.contentAt place).drop position
      let taken := behind.take limit
      .bytes taken (m.setFile index
        (.file place (position + taken.length) mode m.stamp (behind.drop limit)))
  | .lost content position mode =>
    let taken := (content.drop position).take limit
    .bytes taken (m.setFile index (.lost content (position + taken.length) mode))
  | .pipeReader pipe =>
    let queue := m.pipes[pipe]?.getD {}
    if queue.size = 0 then if m.hasWriter pipe then .notYet else .bytes [] m
    else
      let (taken, queue) := queue.pop limit
      .bytes taken { m with pipes := m.pipes.setIfInBounds pipe queue }

/-- What becomes of what is written. -/
inductive WriteResult where
  | done (m : Machine)
  /-- Some bytes had no room yet. -/
  | part (rest : Bytes) (m : Machine)
  | fault (cause : IoError)

/-- How many bytes are kept of what is collected; who writes more has to wait. -/
def collectorSize : Nat := 16777216

/-- Writes to an open file. -/
def writeFile (m : Machine) (index : Nat) (file : OpenFile) (bytes : Bytes) : WriteResult :=
  match file with
  | .null | .zero => .done m
  | .full => if bytes.isEmpty then .done m else .fault .noSpace
  | .pipeReader _ | .directory _ => .fault .badDescriptor
  | .collector written =>
    if collectorSize < written.size then .part bytes m
    else .done (m.setFile index (.collector (written.push bytes)))
  | .file place position mode _ _ =>
    if mode = .read then .fault .badDescriptor
    else match m.tree.lookup place with
      | some (.file content permissions) =>
        let old := content.bytes
        let position := if mode = .append then old.length else position
        let new := overwrite old bytes position
        let m := m.withTree (m.tree.put place (.file (.plain new) permissions))
        let position := position + bytes.length
        .done (m.setFile index (.file place position mode m.stamp (new.drop position)))
      | _ => .done m
  | .lost content position mode =>
    if mode = .read then .fault .badDescriptor
    else
      let position := if mode = .append then content.length else position
      .done (m.setFile index
        (.lost (overwrite content bytes position) (position + bytes.length) mode))
  | .pipeWriter pipe =>
    if !m.hasReader pipe then .fault .brokenPipe
    else
      let queue := m.pipes[pipe]?.getD {}
      let room := pipeSize - queue.size
      let put (bytes : Bytes) : Machine :=
        { m with pipes := m.pipes.setIfInBounds pipe (queue.push bytes) }
      if bytes.length ≤ room then .done (put bytes)
      else .part (bytes.drop room) (if room = 0 then m else put (bytes.take room))

/-- What is known of an open file. -/
def statusOfOpen (m : Machine) : OpenFile → FileStatus
  | .null | .zero | .full => { kind := .device, mode := 0o666 }
  | .collector _ | .pipeReader _ | .pipeWriter _ => { kind := .pipe, mode := 0o600 }
  | .directory place => { kind := .directory, mode := 0o755, identity := showLocation place }
  | .lost content _ _ => { kind := .regular, mode := 0o644, size := content.length }
  | .file place _ _ _ _ =>
    { kind := .regular, mode := 0o644, size := (m.contentAt place).length,
      identity := showLocation place }

/-- What is known of what a path leads to. -/
def status (m : Machine) (p : Process) (path : Raw) (follow : Bool) :
    Except IoError FileStatus := do
  let place ← m.resolve p follow path
  let identity := showLocation place
  if (device? place).isSome then return { kind := .device, mode := 0o666, identity }
  if let some number := descriptorAt? place then
    match m.openFile? p number with
    | some (_, file) => return m.statusOfOpen file
    | none => throw .missing
  match ← m.tree.stat place with
  | .file content mode => return { kind := .regular, mode, size := content.bytes.length, identity }
  | .directory mode => return { kind := .directory, mode, size := 4096, identity }
  | .link target =>
    return { kind := .link, mode := 0o777, size := target.utf8ByteSize, identity }

/-- Lets the open files know that what was at a location is gone. -/
def loseFile (m : Machine) (place : Location) : Machine :=
  let content := m.contentAt place
  { m with files := m.files.map fun
      | .file at' position mode stamp behind =>
        if at' = place then .lost content position mode else .file at' position mode stamp behind
      | file => file }

/-- Lets the open files know that a file has moved. -/
def moveFile (m : Machine) (source target : Location) : Machine :=
  { m with files := m.files.map fun
      | .file at' position mode stamp behind =>
        .file (if at' = source then target else at') position mode stamp behind
      | file => file }

/-- The path of something that need not be there, without the separators at its end. -/
def withoutEnd (path : Raw) : Raw :=
  match path.reverse.dropWhile (· == '/') with
  | [] => path
  | rest => rest.reverse

/-- Changes files. -/
def act (m : Machine) (p : Process) : FileAction → Except IoError Machine
  | .makeDirectory path mode => do
    let place ← m.resolve p true (withoutEnd path)
    let tree ← m.tree.add place (.directory (mode &&& (0o777 ^^^ p.mask)))
    return m.withTree tree
  | .remove path => do
    let place ← m.resolve p false path
    let tree ← m.tree.removeFile place
    return (m.loseFile place).withTree tree
  | .removeDirectory path => do
    let place ← m.resolve p false path
    if place.isEmpty then throw .invalid
    return m.withTree (← m.tree.removeDirectory place)
  | .rename source target => do
    let source ← m.resolve p false source
    let target ← m.resolve p false (withoutEnd target)
    if source = target then return m
    if m.tree.isDirectory source then
      return m.withTree (← m.tree.moveDirectory source target)
    let tree ← m.tree.rename source target
    return ((m.loseFile target).moveFile source target).withTree tree
  | .linkFile source path => do
    let source ← m.resolve p false source
    let place ← m.resolve p false path
    return m.withTree (← m.tree.add place (← m.tree.stat source))
  | .linkPath target path => do
    let place ← m.resolve p false path
    return m.withTree (← m.tree.add place (.link (Raw.toString target)))
  | .setMode path mode => do
    let place ← m.resolve p true path
    return m.withTree (← m.tree.setMode place mode)

end Judge.Host.Machine
