import Judge.Archive.Export
import Judge.Archive.Import
import Judge.Checker.Custom
import Judge.CommandLine
import Judge.Config
import Judge.Sandbox.StandIn
import Judge.Store.Disk
import Judge.Task.Compile

/-!
What the program does with a command line on a host: the text it writes, the status it ends with,
and the failure it reports.
-/

namespace Judge.CommandLine

open Host (Content)

/-- Why a command fails. -/
inductive Failure where
  | noConfig (path : String)
  | badConfig (path : String)
  | languages (cause : Language.RegistryError)
  | store (cause : Store.Error)
  | cannotOpen (path : String)
  | cannotCreate (path : String)
  | cannotRead (path : String)
  | zip (cause : Archive.ZipError)
  | archive (cause : Archive.Error)
  | io (cause : IoError)
  | sandbox (cause : Sandbox.Error)
  | noVerdict
  | notCompiled
  deriving DecidableEq, Repr

/-- The wording of each cause. -/
def Failure.message : Failure → String
  | .noConfig path => s!"Failed to open config {path}"
  | .badConfig path => s!"Bad config {path}"
  | .languages cause => cause.message
  | .store cause => cause.message
  | .cannotOpen path => s!"Failed to open {path}"
  | .cannotCreate path => s!"Failed to create {path}"
  | .cannotRead path => s!"Failed to read {path}"
  | .zip cause => cause.message
  | .archive cause => cause.message
  | .io cause => cause.message
  | .sandbox cause => cause.message
  | .noVerdict => "Checker could not be run"
  | .notCompiled => "Compilation failed"

/-- What a command works on: the host, the time as it goes into names of files, and the text written
so far. -/
structure Session where
  host : Host
  time : String
  output : String := ""

/-- A command, which may fail; what it did before failing stays. -/
abbrev Action (α : Type) := ExceptT Failure (StateM Session) α

/-- Writes a line. -/
def say (line : String) : Action Unit :=
  modify fun s => { s with output := s.output ++ line ++ "\n" }

/-- Goes on with a result, or fails with a failure made from the cause. -/
def orFail {ε α : Type} (failure : ε → Failure) : Except ε α → Action α
  | .ok value => pure value
  | .error cause => throw (failure cause)

/-- Reads a file. -/
def readFile (path : String) (failure : IoError → Failure) : Action Content := do
  orFail failure ((← get).host.fetch path)

/-- Writes a file. -/
def writeFile (path : String) (content : Content) (failure : IoError → Failure) : Action Unit := do
  let s ← get
  set { s with host := ← orFail failure (s.host.deliver path content) }

/-- The configuration, that of one who configures nothing if no file is named. -/
def readConfig (path : Option String) : Action Config := do
  let home := (← get).host.home
  match path with
  | none => return .standard home
  | some path =>
    let content ← readFile path fun _ => .noConfig path
    let text ← orFail (fun _ => .noConfig path) (Source.readText ⟨content.bytes, none⟩)
    orFail (fun _ => .badConfig path) (Config.ofText home text)

/-- Does something with the files of the host. -/
def onTree {ε α : Type} (failure : ε → Failure)
    (action : Host.FileTree → Except ε α × Host.FileTree) : Action α := do
  let s ← get
  let (result, tree) := action s.host.tree
  set { s with host := { s.host with tree } }
  orFail failure result

/-- Opens the store. -/
def openStore (config : Config) : Action Store.Root := do
  let root : Store.Root := ⟨(← get).host.locate config.dataPath, config.dataPath⟩
  onTree .store (Store.Disk.openStore root).run
  return root

/-- Makes a call to the store. -/
def callStore (root : Store.Root) (call : Store.Call) : Action call.Value :=
  onTree .store (Store.Disk.handle root call)

/-- A word with blanks behind it up to a width. -/
def padRight (width : Nat) (word : String) : String :=
  word ++ String.ofList (List.replicate (width - word.length) ' ')

/-- The line of a language in the list of languages. -/
def languageLine (language : Language) : String :=
  padRight 10 language.internalName ++ " " ++ padRight 24 language.printableName ++ " " ++
    String.intercalate " " language.extensions

/-- Imports an archive into a problem, which is made if it is not there. -/
def importInto (config : Config) (problem : Int) (archive : String) : Action Unit := do
  let root ← openStore config
  try
    let _ ← callStore root (.problem problem)
  catch _ => callStore root (.saveProblem { id := problem, name := s!"problem-{problem}" })
  let entries ← match (← get).host.fetch archive with
    | .ok content => orFail .zip content.entries
    | .error .isDirectory => throw (.zip (.io .isDirectory))
    | .error _ => throw (.cannotOpen archive)
  let summary ← onTree .archive
    (Archive.Transfer.runOn (Store.Disk.handle root) (Archive.importArchive entries problem))
  let updated := if summary.problemUpdated then ", problem metadata updated" else ""
  say s!"Imported {summary.tests} tests, {summary.subtasks} subtasks{updated}"

/-- Exports a problem. An export that fails leaves what it had written by then. -/
def exportFrom (config : Config) (problem : Int) (archive : String) : Action Unit := do
  let root ← openStore config
  let problem ← callStore root (.problem problem)
  writeFile archive (.plain []) fun _ => .cannotCreate archive
  let handle := Store.Disk.handle root
  let transfer := Archive.exportArchive problem
  let tree := (← get).host.tree
  match (transfer.runOn handle tree).1 with
  | .ok entries => writeFile archive (.zip entries) .io
  | .error cause =>
    let begun := Archive.Export.begun problem handle tree
    if !begun.isEmpty then writeFile archive (.zip begun) .io
    throw (.archive cause)

/-- Works with the boxes that are configured. -/
def withBoxes {α : Type} (config : Config) (work : StateM Sandbox.Site α) : Action α := do
  let s ← get
  let site : Sandbox.Site :=
    { pool := .ofSize config.sandbox config.boxes
      world := { host := s.host, tool := .ofProgram config.sandbox.isolatePath, time := s.time } }
  let (result, site) := work.run site
  set { s with host := site.world.host }
  return result

/-- Judges one output with a compiled checker. -/
def judge (config : Config) (registry : Language.Registry) (checker : String) (submission : Int)
    (output input answer : String) : Action Unit := do
  let programOutput ← readFile output .io
  let correctInput ← readFile input .io
  let correctOutput ← readFile answer .io
  let verdict ← withBoxes config (Checker.custom registry checker config.compilePath submission
    programOutput.bytes correctInput.bytes correctOutput.bytes)
  say ((verdict.score?.map fun score => s!"{score} ").getD "" ++ verdict.output)
  if verdict = .failed then throw .noVerdict

/-- Compiles a source file. -/
def compileFile (config : Config) (registry : Language.Registry) (language source : String)
    (id : Int) : Action Unit := do
  let content ← readFile source fun _ => .cannotRead source
  let task : Task.Compile :=
    { language, source := content.bytes, outputPath := Path.join config.compilePath s!"{id}.bin" }
  let outcome ← orFail .sandbox
    (← withBoxes config (Sandbox.Site.runProgram (task.program registry)))
  if !outcome.output.isEmpty then say outcome.output
  if !outcome.success then throw .notCompiled

/-- Runs a command. -/
def perform (request : Request) : Action Unit := do
  let config ← readConfig request.config
  let registry ← orFail .languages (Language.Registry.load config.disabledLanguages)
  match request.command with
  | .languages => for language in registry.enabled do say (languageLine language)
  | .importTests problem archive => importInto config problem archive
  | .exportTests problem archive => exportFrom config problem archive
  | .check checker submission output input answer =>
    judge config registry checker submission output input answer
  | .compile language source id => compileFile config registry language source id

/-- What a run of the program shows. -/
structure Outcome where
  status : Nat := 0
  output : String := ""
  failure : Option Failure := none
  deriving DecidableEq, Repr

/-- Runs the program with arguments, the first of which is its name, at a time. -/
def run (time : String) (arguments : List String) : StateM Host Outcome := fun host =>
  match read arguments with
  | .error stop =>
    match stop.answer? with
    | some output => ({ output }, host)
    | none => ({ status := 2 }, host)
  | .ok request =>
    match (perform request).run { host, time } with
    | (.ok (), s) => ({ output := s.output }, s.host)
    | (.error failure, s) =>
      ({ status := 1, output := s.output, failure := some failure }, s.host)

end Judge.CommandLine
