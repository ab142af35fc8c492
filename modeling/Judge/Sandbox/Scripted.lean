import Judge.Sandbox

/-!
A sandbox in memory that refuses chosen calls and runs nothing: every command ends the same way. It
keeps an account of all calls, refused ones included.
-/

namespace Judge.Sandbox

/-- What a scripted sandbox does. -/
structure Script where
  /-- How every command ends. -/
  stats : RunStats := {}
  /-- The paths that cannot be written, `*` for all. -/
  refusedWrites : List String := []
  /-- The paths that nothing can be copied to, `*` for all. -/
  refusedCopies : List String := []
  refusesRuns : Bool := false

/-- A scripted sandbox. -/
structure Scripted where
  files : List (String × Bytes) := []
  /-- The calls so far, the last one first. -/
  calls : List Call := []

namespace Scripted

/-- The cause that refused calls give. -/
def refused : Error := .reported "refused"

/-- Whether a path is among refused ones. -/
def refuses (paths : List String) (path : String) : Bool :=
  paths.contains path || paths.contains "*"

/-- Answers a call. -/
def handle (script : Script) : Handler Scripted := fun call s =>
  let s := { s with calls := call :: s.calls }
  match call with
  | .deliver path data _ =>
    if refuses script.refusedWrites path then (.error refused, s)
    else (.ok (), { s with files := (path, data) :: s.files })
  | .copyIn _ path => (if refuses script.refusedCopies path then .error refused else .ok (), s)
  | .fetch path =>
    match s.files.lookup path with
    | some data => (.ok data, s)
    | none => (.error refused, s)
  | .run _ _ => (if script.refusesRuns then .error refused else .ok script.stats, s)

end Scripted
end Judge.Sandbox
