import Judge.Path
import Judge.Sandbox.Error
import Judge.Host

/-!
The files of a box that is a directory of the host. A path names a file of the box if it starts with
`/box/` and goes on with names only, so that what it leads to on the host lies below the directory of
the box.
-/

namespace Judge.Sandbox

/-- The root of a box as commands see it. -/
def boxRoot : String := "/box"

/-- The rest of a text behind a text in front of it. -/
def dropFront? : List Char → List Char → Option (List Char)
  | [], text => some text
  | _ :: _, [] => none
  | c :: front, d :: text => if c = d then dropFront? front text else none

/-- A text without the separators in front. -/
def dropSlashes (text : List Char) : List Char := text.dropWhile (· == '/')

/-- The path inside the box, from its root on. -/
def fileInBox? (path : List Char) : Except Error (List Char) :=
  match (dropFront? boxRoot.toList path).bind (dropFront? ['/']) with
  | none => .error (.outside (String.ofList path))
  | some rest =>
    let inner := dropSlashes rest
    if inner.isEmpty then .error (.noFile (String.ofList path))
    else if (Path.components inner).all fun part => part matches .normal _ then .ok inner
    else .error (.escapes (String.ofList path))

/-- Where a file of the box is on the host, given the directory of the box. -/
def hostPath (boxDirectory path : String) : Except Error String :=
  (fileInBox? path.toList).map fun inner => Path.join boxDirectory (String.ofList inner)

/-- A path from the root of the box on, as the `isolate` tool wants it; any other path is left as it
is. -/
def relativeToBox (path : String) : String :=
  match dropFront? boxRoot.toList path.toList with
  | some rest => String.ofList (dropSlashes rest)
  | none => path

example : hostPath "/tmp/box-3" "/box/sub/x.in" = .ok "/tmp/box-3/sub/x.in" := rfl

example : hostPath "/tmp/box-3" "/box/../etc/passwd" = .error (.escapes "/box/../etc/passwd") := rfl

/-! ### Files -/

/-- A box whose files are on the host. -/
structure BoxDirectory where
  id : Nat
  /-- The directory of the host that stands for the root of the box. -/
  path : String
  deriving DecidableEq, Repr

namespace BoxDirectory

/-- Where a file of the box is on the host. -/
def place (box : BoxDirectory) (path : String) : Host.Action Error String :=
  ExceptT.mk do return hostPath box.path path

/-- Writes a file with the directories above it. -/
def deliver (box : BoxDirectory) (path : String) (data : Bytes) (executable : Bool) :
    Host.Action Error Unit := do
  let target ← box.place path
  let failure := fun _ => Error.cannotWrite path box.id
  Host.change (·.makeParents target) failure
  Host.change (·.deliver target (.plain data)) failure
  Host.change (·.setMode target (if executable then 0o755 else 0o644)) failure

/-- Copies a file of the host with its permissions. -/
def copyIn (box : BoxDirectory) (source path : String) : Host.Action Error Unit := do
  let target ← box.place path
  Host.change (·.makeParents target) .io
  let copy := fun (host : Host) => do
    let content ← host.fetch source
    let host ← host.deliver target content
    match host.stat source with
    | .ok (.file _ mode) => host.setMode target mode
    | _ => return host
  Host.change copy fun _ => .cannotCopy source box.id

/-- Reads a file. -/
def fetch (box : BoxDirectory) (path : String) : Host.Action Error Bytes := do
  let target ← box.place path
  match (← get).fetch target with
  | .ok content => return content.bytes
  | .error _ => throw (.cannotRead path box.id)

end BoxDirectory

end Judge.Sandbox
