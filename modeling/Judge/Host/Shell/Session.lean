import Judge.Host.Numeral
import Judge.Host.Program
import Judge.Host.Shell.Command

/-!
The state of a shell, and the actions that work on it. An action is a piece of a program of the host:
it is given the state and what comes next, after success or after a stop.
-/

namespace Judge.Host.Shell

/-- A variable. Without a value it can still be marked. -/
structure Variable where
  value : Option Raw := none
  exported : Bool := false
  fixed : Bool := false
  deriving Repr, Inhabited

/-- What is passed over until it is done with. -/
inductive Skip where
  /-- Nothing. -/
  | none
  /-- The rest of so many loops. -/
  | leave (loops : Nat)
  /-- The rest of a round, after leaving the loops inside. -/
  | again (loops : Nat)
  /-- The rest of a function or a file; `explicit` if the status of that was given. -/
  | return (explicit : Bool)
  deriving DecidableEq, Repr

/-- Processes that were started together. -/
structure Job where
  number : Nat
  /-- The numbers of the processes, with the end of each that has ended. -/
  processes : List (Nat × Option Ending) := []
  /-- Whether somebody knows how it ended. -/
  waited : Bool := false
  deriving Repr, Inhabited

/-- What a redirected descriptor stood for before. -/
inductive Before where
  | closed
  /-- What a private descriptor stands for. -/
  | kept (descriptor : Nat)
  deriving DecidableEq, Repr

/-- What a scope puts back when it is closed. -/
inductive Kept where
  | value (name : Raw) (old : Option Variable)
  | options (letters : List Char)
  deriving Repr

/-- The state of a shell. -/
structure Session where
  /-- The name that messages start with. -/
  name : Raw
  arguments : List Raw := []
  /-- In the order in which they were made. -/
  values : List (Raw × Variable) := []
  functions : List (Raw × Node) := []
  aliases : List (Raw × Raw) := []
  /-- Documents in the text of commands. -/
  documents : List (Nat × Word) := []
  nextDocument : Nat := 0
  /-- The letters of the options that are set. -/
  options : List Char := []
  status : Nat := 0
  /-- The status of the last command substitution. -/
  substituted : Nat := 0
  /-- The status to exit with, if that is settled. -/
  exitStatus : Option Nat := none
  traps : List (Nat × Raw) := []
  /-- The signals whose traps were not run yet. -/
  pending : List Nat := []
  skip : Skip := .none
  loops : Nat := 0
  /-- The line of the command that runs, counted from the start of its text. -/
  line : Nat := 1
  /-- The command that runs, as messages show it. -/
  command : Option Raw := none
  /-- What the command has written so far, in reverse. -/
  written : List Raw := []
  /-- The last one first. -/
  jobs : List Job := []
  /-- The process that was started last to run in the background. -/
  background : Option Nat := none
  /-- What the open scopes put back. -/
  scopes : List (List Kept) := []
  /-- What the redirections that are in force put back. -/
  redirected : List (List (Nat × Before)) := []
  /-- Where the shell is, on the way that it came. -/
  directory : Raw := []
  /-- Where it is, without links, if that is known. -/
  place : Option Raw := none
  /-- Where programs were found: which one of the directories of the path. -/
  found : List (Raw × Nat) := []
  /-- The signals whose disposition the shell has set, and those that were ignored from the start. -/
  handled : List Nat := []
  locked : List Nat := []
  /-- How many functions run inside of each other. -/
  depth : Nat := 0
  /-- Whether this is a part of another shell. -/
  inner : Bool := false
  /-- The number of the shell that was started first, and of its parent. -/
  number : Nat := 0
  parent : Nat := 0
  /-- The argument that `getopts` looks at next, and how many characters of the one before it has gone
  through. -/
  optionIndex : Nat := 1
  optionOffset : Option Nat := none
  /-- Whether the prompt of a trace is being expanded. -/
  tracing : Bool := false
  /-- The descriptor that traces are written to. -/
  traceTo : Nat := 2

/-- What stops an action. -/
inductive Stop where
  /-- A failure that was complained about. -/
  | failure
  /-- The shell is told to exit. -/
  | exit
  /-- Nothing is left to be done. -/
  | finish
  deriving DecidableEq, Repr

/-- An action of a shell. -/
def Sh (α : Type) : Type :=
  Session → (α → Session → Program) → (Stop → Session → Program) → Program

namespace Sh

instance : Monad Sh where
  pure a := fun s ok _ => ok a s
  bind action next := fun s ok stop => action s (fun a s => next a s ok stop) stop

instance : MonadStateOf Session Sh where
  get := fun s ok _ => ok s s
  set s := fun _ ok _ => ok () s
  modifyGet f := fun s ok _ => let (a, s) := f s; ok a s

/-- Stops. -/
def stop {α : Type} (reason : Stop) : Sh α := fun s _ stop => stop reason s

/-- Does something, and something else if it stops. -/
def orElse {α : Type} (action : Sh α) (rescue : Stop → Sh α) : Sh α := fun s ok stop =>
  action s ok fun reason s => rescue reason s ok stop

/-- Does something in the end, whether or not an action stops. -/
def ensuring {α : Type} (action : Sh α) (last : Sh Unit) : Sh α := fun s ok stop =>
  action s (fun a s => last s (fun _ s => ok a s) stop)
    fun reason s => last s (fun _ s => stop reason s) stop

/-- Makes a request. -/
def ask (request : Request) : Sh request.Answer := fun s ok _ =>
  .call request fun answer => ok answer s

/-- Does what a program of the host does. -/
def act {α : Type} (action : Act α) : Sh α := fun s ok _ => action.bind fun a => ok a s

/-- Goes on as a copy of the process too, which ends with a program of its own. The number of the
copy is the result. -/
def fork (child : Session → Program) : Sh Nat := fun s ok _ =>
  .call .fork fun number => if number = 0 then child s else ok number s

/-- Ends the process. -/
def quit {α : Type} (status : Nat) : Sh α := fun _ _ _ => .done status

/-- Writes a text, whatever becomes of it. -/
def say (descriptor : Nat) (text : Raw) : Sh Unit := do
  let _ ← ask (.write descriptor (Raw.toBytes text))
  return ()

/-- Adds to what the command writes. -/
def out (text : Raw) : Sh Unit := modify fun s => { s with written := text :: s.written }

/-- A number as text. -/
def showNat (n : Nat) : Raw := (toString n).toList

/-- A text in quotes, as a shell reads it back: single quotes in it stand in double ones. -/
def quoteRest (inDoubled : Bool) : Raw → Raw
  | [] => if inDoubled then ['\x22'] else ['\'']
  | '\'' :: rest => (if inDoubled then "'" else "'\x22'").toList ++ quoteRest true rest
  | c :: rest => (if inDoubled then ['\x22', '\'', c] else [c]) ++ quoteRest false rest

/-- A text in quotes. -/
def quote (text : Raw) : Raw := '\'' :: quoteRest false text

/-- Complains. -/
def complain (message : Raw) : Sh Unit := do
  let s ← get
  let place := s.name ++ ": ".toList ++ showNat s.line ++ ": ".toList
  let command := match s.command with
    | some command => command ++ ": ".toList
    | none => []
  say 2 (place ++ command ++ message ++ ['\n'])

/-- Writes out what the command has written. The result tells whether that went well. -/
def flush : Sh Bool := do
  let s ← get
  if s.written.isEmpty then return true
  set { s with written := [] }
  let text := s.written.reverse.flatten
  if text.isEmpty then return true
  match ← ask (.write 1 (Raw.toBytes text)) with
  | .ok _ => return true
  | .error _ => return false

/-- Complains, and stops. -/
def fail {α : Type} (message : Raw) : Sh α := do
  modify fun s => { s with status := 2 }
  complain message
  let _ ← flush
  stop .failure

end Sh

namespace Session

/-- Whether an option is set. -/
def hasOption (s : Session) (option : Char) : Bool := s.options.contains option

/-- A variable. -/
def find? (s : Session) (name : Raw) : Option Variable := s.values.lookup name

/-- The value of a variable. -/
def value? (s : Session) (name : Raw) : Option Raw := (s.find? name).bind (·.value)

/-- Changes a variable, which is made if there is none. -/
def alter (s : Session) (name : Raw) (change : Variable → Variable) : Session :=
  if s.values.any (·.1 == name) then
    { s with values := s.values.map fun (n, v) => (n, if n == name then change v else v) }
  else { s with values := s.values ++ [(name, change {})] }

/-- Puts a variable back as it was. -/
def restore (s : Session) (name : Raw) : Option Variable → Session
  | none => { s with values := s.values.filter (·.1 != name) }
  | some old => s.alter name fun _ => old

/-- The characters that separate fields. -/
def separators (s : Session) : Raw :=
  match s.find? "IFS".toList with
  | some { value := some value, .. } => value
  | _ => " \t\n".toList

/-- Where a variable comes in the table of variables. -/
def tableIndex (name : Raw) : Nat :=
  let start := (name.head?.elim 0 Char.toNat) * 16
  (name.foldl (fun sum c => sum + c.toNat) start) % 39

/-- The variables that programs are given, in the order of the table. -/
def settings (s : Session) : Settings :=
  let given := s.values.filterMap fun (name, v) =>
    if v.exported then v.value.map (name, ·) else none
  given.mergeSort fun a b => tableIndex a.1 ≤ tableIndex b.1

end Session

namespace Sh

/-- Complains about a text that should be a number. -/
def badNumber {α : Type} (text : Raw) : Sh α := fail ("Illegal number: ".toList ++ text)

/-- The number that a text is. -/
def number (text : Raw) : Sh Nat :=
  match Numeral.whole? 10 text with
  | some n => if n < 0 || 2147483647 < n then badNumber text else return n.toNat
  | none => badNumber text

/-- Complains about what is no name of a variable. -/
def badName {α : Type} (name : Raw) : Sh α := fail (name ++ ": bad variable name".toList)

/-- Changes a variable that is not fixed. -/
def alterVariable (name : Raw) (change : Variable → Variable) : Sh Unit := do
  if !isName name then badName name
  let s ← get
  if (s.find? name).any (·.fixed) then fail (name ++ ": is read only".toList)
  set (s.alter name change)

/-- Sets a variable. The mark for export stays, and option `a` sets it. A new path makes the shell
forget where programs are, and a new index makes `getopts` start there. -/
def assign (name value : Raw) (exported : Bool) : Sh Unit := do
  if name == "OPTIND".toList then
    let index ← number value
    modify fun s => { s with optionIndex := Nat.max index 1, optionOffset := none }
  else if name == "PATH".toList then modify fun s => { s with found := [] }
  let exported := exported || (← get).hasOption 'a'
  alterVariable name fun v =>
    { v with value := some value, exported := v.exported || exported }

/-- Takes a variable away. -/
def unassign (name : Raw) : Sh Unit := do
  alterVariable name id
  modify fun s => { s.restore name none with
    found := if name == "PATH".toList then [] else s.found }

/-- Has a variable put back when the innermost scope is closed. -/
def makeLocal (name : Raw) : Sh Unit := modify fun s =>
  match s.scopes with
  | [] => s
  | scope :: rest => { s with scopes := (.value name (s.find? name) :: scope) :: rest }

/-- Opens a scope. -/
def openScope : Sh Unit := modify fun s => { s with scopes := [] :: s.scopes }

/-- Puts something back. -/
def putBack (s : Session) : Kept → Session
  | .value name old =>
    { s.restore name old with found := if name == "PATH".toList then [] else s.found }
  | .options letters => { s with options := letters }

/-- Closes the innermost scope. -/
def closeScope : Sh Unit := modify fun s =>
  match s.scopes with
  | [] => s
  | scope :: rest => { scope.foldl putBack s with scopes := rest }

end Sh
end Judge.Host.Shell
