import Judge.CommandLine.Files

/-!
The program. It takes from the disk the files that the command line can have to do with, runs the
command on a host with them, puts back what has changed, and shows what is to be shown.
-/

namespace Judge.CommandLine

/-- Adds the files at paths to a host, as far as they can be read. -/
def loadFiles (host : Host) (paths : List String) : IO Host := do
  let mut host := host
  for path in paths do
    try
      let bytes ← IO.FS.readBinFile path
      host := host.withFile path bytes.toList true
    catch _ => pure ()
  return host

/-- Puts a change on the disk. -/
def storeChange (change : FileChange) : IO Unit := do
  let path := Host.showLocation change.location
  match change.now with
  | none => IO.FS.removeFile path
  | some (bytes, executable) =>
    IO.FS.createDirAll (Host.showLocation change.location.dropLast)
    IO.FS.writeBinFile path ⟨bytes.toArray⟩
    if executable then
      let right : IO.AccessRight := { read := true, execution := true }
      IO.setAccessRights path
        { user := { right with write := true }
          group := right
          other := right }

/-- The host that the program starts on. -/
def startHost : IO Host := do
  let directory := toString (← IO.currentDir)
  let path := (← IO.getEnv "PATH").getD ""
  let host : Host :=
    { searchPath := (Text.splitAt ':' path.toList).map String.ofList
      home := (← IO.getEnv "HOME").getD "/" }
  let host := host.withDirectory directory
  return { host with directory := host.locate directory }

end Judge.CommandLine

open Judge CommandLine in
/-- Runs the program. -/
def main (arguments : List String) : IO UInt32 := do
  let arguments := programName :: arguments
  let mut host ← startHost
  if let .ok request := CommandLine.read arguments then
    for stage in [0, 1, 2] do
      host ← loadFiles host (filesOfStage host request stage)
  let (outcome, after) := (run (toString (← IO.monoMsNow)) arguments).run host
  for change in changesBetween host after do storeChange change
  IO.print outcome.output
  if let some failure := outcome.failure then IO.eprintln s!"Error: {failure.message}"
  if let .error stop := CommandLine.read arguments then IO.eprint stop.complaint
  return UInt32.ofNat outcome.status
