import Judge.Text.Lines

/-!
Source languages: how a source file is recognised, compiled and run, with the environment of its
commands and the directories that a sandbox shows or hides for them.
-/

namespace Judge

/-- Environment variables in the order of their names. -/
abbrev Environment := List (String × String)

namespace Environment

/-- Adds a variable in its place, replacing one of the same name. -/
def set (name value : String) : Environment → Environment
  | [] => [(name, value)]
  | (n, v) :: rest =>
    if name < n then (name, value) :: (n, v) :: rest
    else if name = n then (name, value) :: rest
    else (n, v) :: set name value rest

/-- Variables in the order of their names, the last value of a name winning. -/
def ofList (values : List (String × String)) : Environment :=
  values.foldl (fun env v => set v.1 v.2 env) []

end Environment

namespace Language

/-- A rule for one directory of a sandbox. -/
structure Mount where
  /-- The path inside the sandbox. -/
  inside : String
  /-- The path outside; if empty, the same as inside unless `verbatim`. -/
  outside : String := ""
  /-- Options such as `tmp` or `rw`. -/
  options : String := ""
  /-- Hides the directory. -/
  removes : Bool := false
  /-- Keeps an empty outside path empty. -/
  verbatim : Bool := false
  deriving DecidableEq, Repr

namespace Mount

/-- Shows a directory under its own path. -/
def bind (path : String) : Mount := { inside := path }

/-- The part of a rule that says where the directory is outside. -/
def target (mount : Mount) : String :=
  if mount.outside ≠ "" then "=" ++ mount.outside
  else if mount.verbatim then ""
  else "=" ++ mount.inside

/-- The rule as an argument of the `isolate` tool. -/
def argument (mount : Mount) : String :=
  if mount.removes then "--dir=" ++ mount.inside ++ "="
  else "--dir=" ++ mount.inside ++ mount.target ++
    if mount.options = "" then "" else ":" ++ mount.options

example : (bind "/etc").argument = "--dir=/etc=/etc" := by decide

end Mount

end Language

/-- A source language. -/
structure Language where
  disabled : Bool := false
  /-- The recognised extensions with their dots; the last one belongs to no other language. -/
  extensions : List String
  compiled : Bool
  printableName : String
  internalName : String
  /-- Empty for interpreted languages. -/
  compileCommand : List String := []
  runCommand : List String
  buildEnv : Environment := []
  runEnv : Environment := []
  mounts : List Language.Mount := []
  /-- Where the source goes inside a sandbox. -/
  sourceName : String
  /-- Where the compiled program is inside a sandbox. -/
  compiledName : String
  deriving DecidableEq, Repr

namespace Language

/-- What stands for the source path in compile commands. -/
def sourceMark : String := "<REPLACE>"

/-- Why there is no compile command. -/
inductive CommandError where
  | notCompiled (language : String)
  | noCommand (language : String)
  deriving DecidableEq, Repr

/-- The wording of each cause. -/
def CommandError.message : CommandError → String
  | .notCompiled language => s!"Language {language} is not compiled"
  | .noCommand language => s!"Language {language} has no compile command"

/-- The extension that belongs to this language alone. -/
def terminal (language : Language) : String := language.extensions.getLast?.getD ""

/-- The command that compiles a source file. -/
def compileCommandFor (language : Language) (source : String) :
    Except CommandError (List String) :=
  if !language.compiled then .error (.notCompiled language.internalName)
  else if language.compileCommand.isEmpty then .error (.noCommand language.internalName)
  else .ok (language.compileCommand.map fun part => Text.replaceString sourceMark source part)

end Language

end Judge
