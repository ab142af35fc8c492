import Judge.Host.Shell.Evaluator
import Judge.Host.Shell.Lookup
import Judge.Host.Shell.Options

/-!
Commands of the shell that bear on what runs next: leaving loops, functions and the shell, running
texts and files, and becoming a program.
-/

namespace Judge.Host.Shell.Builtin

/-- Leaves loops, or goes on with the next round of one. -/
def leaveLoops (again : Bool) (arguments : List Raw) : Sh Nat := do
  let n ← match arguments with
    | [] => pure 1
    | text :: _ => do
      let n ← Sh.number text
      if n = 0 then Sh.badNumber text
      pure n
  let n := Nat.min n (← get).loops
  if 0 < n then modify fun s => { s with skip := if again then .again n else .leave n }
  return 0

/-- Returns from a function or a file. -/
def return_ (arguments : List Raw) : Sh Nat := do
  match arguments with
  | [] =>
    modify fun s => { s with skip := .return false }
    return (← get).status
  | text :: _ =>
    let status ← Sh.number text
    modify fun s => { s with skip := .return true }
    return status

/-- Exits. -/
def exit (arguments : List Raw) : Sh Nat := do
  match arguments with
  | [] => Sh.stop .exit
  | text :: _ =>
    let status ← Sh.number text
    modify fun s => { s with exitStatus := some status }
    Sh.stop .exit

/-- Runs the arguments as a text. -/
def eval (e : Evaluator) (flags : Flags) (arguments : List Raw) : Sh Nat := do
  if arguments.isEmpty then return 0
  e.text flags (arguments.intersperse [' ']).flatten

/-- Looks for a file to run among paths. -/
def findFile (name : Raw) : List Raw → Sh Raw
  | [] => Sh.fail (name ++ ": not found".toList)
  | path :: rest => do
    match ← Sh.ask (.look path true) with
    | .ok status => if status.kind = .regular then return path else findFile name rest
    | .error _ => findFile name rest

/-- Reads a file to run. -/
def readFile (path : Raw) : Sh Raw := do
  match ← Sh.ask (.openFile path .read) with
  | .error cause =>
    let reason := match cause with
      | .missing | .notDirectory => "No such file".toList
      | cause => wording cause
    Sh.fail ("cannot open ".toList ++ path ++ ": ".toList ++ reason)
  | .ok descriptor =>
    let bytes ← Evaluator.readAll descriptor Sh.tries []
    let _ ← Sh.ask (.close descriptor)
    return Raw.ofBytes bytes

/-- Runs a file. -/
def source (e : Evaluator) (arguments : List Raw) : Sh Nat := do
  let (_, operands) ← Sh.options "" "" arguments
  match operands with
  | [] => return 0
  | name :: _ =>
    let path ← if name.contains '/' then pure name
      else findFile name (pathsIn (Lookup.searchPath (← get)) name)
    let text ← readFile path
    modify fun s => { s with command := some path }
    let status ← e.text {} text
    modify fun s => match s.skip with
      | .return _ => { s with skip := .none }
      | _ => s
    return status

/-- Becomes a program. -/
def exec (words : List Raw) : Sh Nat := do
  if words.isEmpty then return 0
  Lookup.becomeProgram none none words

end Judge.Host.Shell.Builtin
