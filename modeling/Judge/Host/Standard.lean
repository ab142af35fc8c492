import Judge.Host.Machine.Image
import Judge.Host.Shell
import Judge.Host.Utility.Calculation
import Judge.Host.Utility.Characters
import Judge.Host.Utility.Ordering
import Judge.Host.Utility.Reading
import Judge.Host.Utility.Search
import Judge.Host.Utility.System

/-!
What every host comes with: directories, devices, and the programs of a small system.
-/

namespace Judge.Host

/-- A program that does not look at its settings. -/
def plain (program : List Raw → Program) (arguments : List Raw) (_ : Settings) : Program :=
  program arguments

/-- The lines that an extended expression fits. -/
def grepWith (letter : Char) (arguments : List Raw) : Program :=
  Utility.grep (["grep".toList, ['-', letter]] ++ arguments.drop 1)

open Utility in
/-- The programs of a host by name. -/
def programList : List (String × (List Raw → Settings → Program)) :=
  [("[", plain bracket), ("basename", plain basename), ("cat", plain cat), ("chmod", plain chmod),
    ("cp", plain cp), ("cut", plain cut), ("dash", shell), ("dirname", plain dirname),
    ("echo", plain echo), ("egrep", plain (grepWith 'E')), ("env", env), ("expr", plain expr),
    ("false", plain fail), ("fgrep", plain (grepWith 'F')), ("fold", plain fold),
    ("grep", plain grep), ("head", plain head), ("kill", plain kill), ("ln", plain ln),
    ("ls", plain ls), ("mkdir", plain mkdir), ("mv", plain mv), ("nl", plain nl),
    ("paste", plain paste), ("printenv", printenv), ("printf", plain printf), ("pwd", plain pwd),
    ("readlink", plain readlink), ("rev", plain rev), ("rm", plain rm), ("rmdir", plain rmdir),
    ("seq", plain seq), ("sh", shell), ("sleep", plain sleep), ("sort", plain sort),
    ("tac", plain tac), ("tail", plain tail), ("tee", plain tee), ("test", plain test),
    ("touch", plain touch), ("tr", plain tr), ("true", plain succeed), ("uniq", plain uniq),
    ("wc", plain wc), ("yes", plain yes)]

/-- The programs of a host. -/
def programs : Programs := fun name =>
  (programList.find? fun p => p.1.toList == name).map (·.2)

/-- The directories that every host has. -/
def standardDirectories : List String :=
  ["/dev", "/etc", "/home", "/opt", "/proc/self/fd", "/root", "/run", "/sys", "/tmp", "/usr/bin",
    "/usr/lib", "/usr/local/bin", "/usr/sbin", "/var/tmp"]

/-- The links that every host has: where they are and what they lead to. -/
def standardLinks : List (String × String) :=
  [("bin", "usr/bin"), ("sbin", "usr/sbin"), ("lib", "usr/lib")]

/-- The links among the devices. -/
def deviceLinks : List (String × String) :=
  [("fd", "/proc/self/fd"), ("stdin", "/proc/self/fd/0"), ("stdout", "/proc/self/fd/1"),
    ("stderr", "/proc/self/fd/2")]

/-- The nodes of what is no directory on every host. -/
def standardNodes : List (Location × Node) :=
  standardLinks.map (fun (name, target) => ([name], .link target)) ++
    deviceLinks.map (fun (name, target) => (["dev", name], .link target)) ++
    ["null", "zero", "full"].map (fun name => (["dev", name], .file (.plain []) 0o666)) ++
    programList.map (fun (name, _) => (["usr", "bin", name], .file (.plain (imageOf name)) 0o755))

/-- A host on which relative paths start in a directory, with scripts in another one in which
programs are looked for. -/
def withPrograms (directory scriptDirectory : String) (scripts : List (String × Bytes)) : Host :=
  let start : Host := { searchPath := [scriptDirectory] }
  let start := standardDirectories.foldl withDirectory start
  let start := { start with
    tree := standardNodes.foldl (fun tree (place, node) => tree.put place node) start.tree }
  let start := [directory, scriptDirectory].foldl withDirectory start
  scripts.foldl (fun host (name, script) => host.withFile (Path.join scriptDirectory name) script true)
    { start with directory := start.locate directory }

end Judge.Host
