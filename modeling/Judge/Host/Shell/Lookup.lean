import Judge.Host.Shell.Session
import Judge.Host.Shell.Token

/-!
What the names of commands lead to: functions, commands of the shell itself, and programs.
-/

namespace Judge.Host.Shell

/-- A command of the shell itself. -/
structure Builtin where
  name : String
  /-- Whether its failure ends the shell, and assignments in front of it stay. -/
  special : Bool := false
  /-- Whether it is found before what is done with assignments in front of it. -/
  regular : Bool := false
  /-- Whether its operands may be assignments. -/
  assigns : Bool := false
  deriving Repr

namespace Builtin

/-- All commands of the shell itself. -/
def all : List Builtin :=
  ["break", "continue", ".", "eval", "exec", "exit", "return", "set", "shift", "times", "trap",
    "unset"].map ({ name := ·, special := true }) ++
  [{ name := ":", special := true, regular := true },
    { name := "export", special := true, assigns := true },
    { name := "readonly", special := true, assigns := true },
    { name := "local", special := true, assigns := true },
    { name := "alias", regular := true, assigns := true }] ++
  ["bg", "cd", "chdir", "command", "false", "fg", "getopts", "hash", "jobs", "kill", "pwd", "read",
    "true", "type", "ulimit", "umask", "unalias", "wait"].map ({ name := ·, regular := true }) ++
  ["echo", "printf", "test", "["].map ({ name := · })

/-- The command with a name. -/
def find? (name : Raw) : Option Builtin := all.find? fun b => b.name.toList == name

end Builtin

/-- What the name of a command leads to. -/
inductive Target where
  | function (body : Node)
  | builtin (b : Builtin)
  /-- A program, in one of the directories of the search path or at a path. -/
  | program (index : Option Nat)
  | unknown (cause : IoError)

namespace Lookup

/-- Where programs are looked for. -/
def searchPath (s : Session) : Raw := (s.value? "PATH".toList).getD []

/-- Where programs are looked for if nothing else is to be trusted. -/
def standardPath : Raw := "/usr/local/sbin:/usr/local/bin:/usr/sbin:/usr/bin:/sbin:/bin".toList

/-- What is said of a cause that keeps a command from being found or run. -/
def wordingOf : IoError → Raw
  | .missing | .notDirectory => "not found".toList
  | cause => wording cause

/-- Looks for a program among paths. -/
def searchFrom (index : Nat) (cause : IoError) : List Raw → Sh Target
  | [] => return .unknown cause
  | path :: rest => do
    match ← Sh.ask (.look path true) with
    | .error .missing | .error .notDirectory => searchFrom (index + 1) cause rest
    | .error cause => searchFrom (index + 1) cause rest
    | .ok status =>
      if status.kind = .regular && status.mode &&& 0o111 != 0 then return .program (some index)
      else searchFrom (index + 1) .permission rest

/-- Looks for a program in the directories of a path, which need not be the usual one. What is found
in the usual one is kept in mind. -/
def search (other : Option Raw) (name : Raw) : Sh Target := do
  let s ← get
  match if other.isNone then s.found.lookup name else none with
  | some index => return .program (some index)
  | none =>
    let target ← searchFrom 0 .missing (pathsIn (other.getD (searchPath s)) name)
    match target with
    | .program (some index) =>
      if other.isNone then modify fun s => { s with found := s.found ++ [(name, index)] }
    | _ => pure ()
    return target

/-- What a name leads to inside of the shell. -/
def findOwn (functions : Bool) (name : Raw) (s : Session) : Option Target :=
  if name.contains '/' then none
  else match if functions then s.functions.lookup name else none with
    | some body => some (.function body)
    | none => (Builtin.find? name).map .builtin

/-- What a name leads to. -/
def find (functions : Bool) (other : Option Raw) (name : Raw) : Sh Target := do
  if name.contains '/' then return .program none
  match findOwn functions name (← get) with
  | some target => return target
  | none => search other name

/-- Tries to become the program at a path. What cannot be run is taken for a script. -/
def tryProgram (path : Raw) (words : List Raw) : Sh IoError := do
  let settings := (← get).settings
  match ← Sh.ask (.execute path words settings) with
  | .badFormat =>
    let shell := "/bin/sh".toList
    Sh.ask (.execute shell (shell :: path :: words.drop 1) settings)
  | cause => return cause

/-- Tries to become a program at one of some paths. -/
def tryPrograms (words : List Raw) (cause : IoError) : List Raw → Sh IoError
  | [] => return cause
  | path :: rest => do
    match ← tryProgram path words with
    | .missing | .notDirectory => tryPrograms words cause rest
    | cause => tryPrograms words cause rest

/-- Becomes a program. If that fails, the shell ends. -/
def becomeProgram {α : Type} (other : Option Raw) (index : Option Nat) (words : List Raw) :
    Sh α := do
  let name := words.headD []
  let cause ← if name.contains '/' then tryProgram name words
    else
      let path := other.getD (searchPath (← get))
      tryPrograms words .missing ((pathsIn path name).drop (index.getD 0))
  let status := match cause with
    | .missing | .notDirectory | .nameTooLong | .tooManyLinks => 127
    | _ => 126
  modify fun s => { s with status }
  Sh.complain (name ++ ": ".toList ++ wordingOf cause)
  Sh.stop .finish

/-- Describes what a command is. -/
def describe (other : Option Raw) (verbose : Bool) (name : Raw) : Sh Nat := do
  let s ← get
  let tell (short : Raw) (long : String) : Sh Nat := do
    Sh.out ((if verbose then name ++ long.toList else short) ++ ['\n'])
    return 0
  if (Keyword.ofText? name).isSome then tell name " is a shell keyword"
  else match s.aliases.lookup name with
    | some value =>
      if verbose then
        Sh.out (name ++ " is an alias for ".toList ++ value ++ ['\n'])
      else Sh.out ("alias ".toList ++ name ++ '=' :: Sh.quote value ++ ['\n'])
      return 0
    | none =>
      let known := s.found.any (·.1 == name)
      let unknown : Sh Nat := do
        if verbose then Sh.out (name ++ ": not found\n".toList)
        return 127
      let found (path : Raw) : Sh Nat := do
        let tracked := if known then " a tracked alias for" else ""
        Sh.out (if verbose then name ++ " is".toList ++ tracked.toList ++ ' ' :: path ++ ['\n']
          else path ++ ['\n'])
        return 0
      match ← find true other name with
      | .function .. => tell name " is a shell function"
      | .builtin b =>
        tell name (if b.special then " is a special shell builtin" else " is a shell builtin")
      | .unknown _ => unknown
      | .program none =>
        match ← Sh.ask (.look name true) with
        | .ok _ => found name
        | .error _ => unknown
      | .program (some index) =>
        let path := other.getD (searchPath s)
        found ((pathsIn path name)[index]?.getD name)

end Lookup
end Judge.Host.Shell
