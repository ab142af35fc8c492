import Judge.Host.Machine.Step
import Judge.Host.Standard
import Judge.Sandbox.World

/-!
Programs in the place of the `isolate` tool: one that follows a scenario, and any program of the
host.
-/

namespace Judge.Sandbox

/-- What a stand-in does in one stage. -/
structure Part where
  status : Option Int := some 0
  /-- What it writes, none for what is usual in the stage. -/
  output : Option Bytes := none
  errors : Bytes := []
  /-- What it writes to the file for the account. -/
  account : Option Bytes := none
  /-- What it writes to files of the box. -/
  files : List (String × Bytes) := []
  deriving DecidableEq, Repr

/-- What a stand-in does in each stage. -/
structure Scenario where
  init : Part := {}
  run : Part := {}
  cleanup : Part := {}
  deriving DecidableEq, Repr

namespace Scenario

/-- The stage that arguments ask for. -/
def stageOf (arguments : List String) : Stage :=
  match arguments[3]? with
  | some "--init" => .init
  | some "--cleanup" => .cleanup
  | _ => .run

/-- The part for a stage. -/
def part (scenario : Scenario) : Stage → Part
  | .init => scenario.init
  | .run => scenario.run
  | .cleanup => scenario.cleanup

/-- The stand-in that follows a scenario, given the directory that its box is in. -/
def tool (scenario : Scenario) (root : String) : Tool := fun arguments host =>
  let stage := stageOf arguments
  let part := scenario.part stage
  let usual := if stage = .init then Utf8.ofString (root ++ "\n") else []
  let accounts := match part.account with
    | some account => if stage = .run then (arguments[5]?.toList.map (·, account)) else []
    | none => []
  let files := part.files.map fun (name, data) => (Path.join (Path.join root "box") name, data)
  let host := (accounts ++ files).foldl (fun host (path, data) => host.withFile path data false)
    host
  (.ended part.status (part.output.getD usual) part.errors, host)

end Scenario

/-- A program of the host in the place of the tool. -/
def Tool.ofProgram (path : String) : Tool := fun arguments host =>
  let searchPath := String.intercalate ":" host.searchPath
  let settings := [("HOME", host.home), ("PATH", searchPath)].map fun (name, value) =>
    (Raw.ofString name, Raw.ofString value)
  let words := (path :: arguments).map Raw.ofString
  let m : Host.Machine :=
    { programs := Host.programs, tree := host.tree,
      files := #[.null, .collector {}, .collector {}] }
  let paths := Host.pathsOf (Raw.ofString searchPath) (Raw.ofString path)
  if path.contains '\x00' then (.notStarted .nulInData, host)
  else match Host.imageAmong host.tree host.directory words .missing paths with
    | .error cause | .ok (_, .error cause) => (.notStarted cause, host)
    | .ok (path, .ok _) =>
      let (ending, m) := (m.start host.directory [0, 1, 2] [] path words settings).run none
      let status := match ending with
        | some (.exited status) => some (status : Int)
        | _ => none
      (.ended status (m.collected 1) (m.collected 2), { host with tree := m.tree })

end Judge.Sandbox
