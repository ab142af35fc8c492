import Judge.CommandLine.Run

/-!
The files that a command line can have to do with. They are found in three stages, each of which
needs those of the stage before: the configuration, the files that it and the command name, and the
data of the tests that are listed there.
-/

namespace Judge.CommandLine

/-- The configuration of a request on a host that has its file. -/
def configOn (host : Host) (request : Request) : Option Config :=
  match (readConfig request.config).run { host, time := "" } with
  | (.ok config, _) => some config
  | (.error _, _) => none

/-- The problem of a command. -/
def Command.problem? : Command → Option Int
  | .importTests problem _ | .exportTests problem _ => some problem
  | _ => none

/-- The files that a command names besides those of the store. -/
def Command.namedFiles (config : Config) : Command → List String
  | .languages => []
  | .importTests _ archive | .exportTests _ archive => [archive]
  | .check _ submission output input answer =>
    [output, input, answer, Checker.binaryPath config.compilePath submission]
  | .compile _ source id => [source, Path.join config.compilePath s!"{id}.bin"]

/-- The records of the store that a command can have to do with. -/
def recordFiles (config : Config) (problem : Int) : List String :=
  let root : Store.Root := ⟨[], config.dataPath⟩
  [root.counter.shown, (root.problem problem).shown, (root.tests problem).shown,
    (root.subtasks problem).shown]

/-- The files with the data of the tests that a host lists for a problem. -/
def dataFiles (host : Host) (config : Config) (problem : Int) : List String :=
  let root : Store.Root := ⟨host.locate config.dataPath, config.dataPath⟩
  match (Store.Disk.loadTests root problem).run host.tree with
  | (.ok tests, _) => tests.flatMap fun test =>
    [root.input test.id, root.output test.id].flatMap fun place =>
      [place.shown, place.compressed.shown]
  | (.error _, _) => []

/-- The files of a stage, given a host with those of the stages before. -/
def filesOfStage (host : Host) (request : Request) : Nat → List String
  | 0 => request.config.toList
  | 1 =>
    match configOn host request with
    | none => []
    | some config =>
      request.command.namedFiles config ++
        request.command.problem?.toList.flatMap (recordFiles config)
  | _ =>
    match configOn host request with
    | none => []
    | some config => request.command.problem?.toList.flatMap (dataFiles host config)

/-- A file that has changed: what it holds now and whether it can be run, or that it is gone. -/
structure FileChange where
  location : Host.Location
  now : Option (Bytes × Bool)
  deriving DecidableEq, Repr

/-- What has become of the files of a host. -/
def changesBetween (before after : Host) : List FileChange :=
  let gone := before.tree.nodes.filterMap fun (location, node) =>
    if node matches .file _ _ && !after.tree.exists? location then some ⟨location, none⟩ else none
  let written := after.tree.nodes.filterMap fun (location, node) =>
    match node with
    | .file content mode =>
      if before.tree.lookup location = some node then none
      else some ⟨location, some (content.bytes, mode &&& 0o111 != 0)⟩
    | _ => none
  gone ++ written

end Judge.CommandLine
