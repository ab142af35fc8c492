import Judge.Script
import Judge.Stream
import Judge.Text.Lines
import Judge.Text.Raw

/-!
Programs of a host, as scripts of the requests that they make to its system. A program sees nothing
of the host but the answers, so a copy of it that goes on with another answer is another process.
-/

namespace Judge.Host

/-- How a process ends. -/
inductive Ending where
  | exited (status : Nat)
  | signaled (number : Nat)
  deriving DecidableEq, Repr

/-- What is done with a signal. -/
inductive Disposition where
  | usual
  | ignored
  /-- The process is told of it. -/
  | caught
  deriving DecidableEq, Repr

/-- What a file is opened for. -/
inductive OpenMode where
  | read
  /-- The old content is dropped. -/
  | write
  /-- There must not be an old file. -/
  | create
  | append
  | update
  deriving DecidableEq, Repr

/-- What kind of thing a path leads to. -/
inductive FileKind where
  | regular
  | directory
  | link
  | pipe
  | device
  deriving DecidableEq, Repr

/-- What is known of a file without reading it. -/
structure FileStatus where
  kind : FileKind
  mode : Nat
  size : Nat := 0
  /-- Tells files apart. -/
  identity : String := ""
  deriving DecidableEq, Repr

/-- A change of the files of the host, with paths. -/
inductive FileAction where
  | makeDirectory (path : Raw) (mode : Nat)
  | remove (path : Raw)
  | removeDirectory (path : Raw)
  | rename (source target : Raw)
  /-- Another name of a file. -/
  | linkFile (source path : Raw)
  | linkPath (target path : Raw)
  | setMode (path : Raw) (mode : Nat)
  deriving DecidableEq, Repr

/-- Which resource a limit is on. -/
inductive Resource where
  | processor
  | fileSize
  | data
  | stack
  | core
  | resident
  | locked
  | processes
  | openFiles
  | memory
  | locks
  | priority
  deriving DecidableEq, Repr

/-- The limit in force and the greatest that it can be raised to, each none for no limit. -/
structure Limit where
  soft : Option Nat := none
  hard : Option Nat := none
  deriving DecidableEq, Repr

/-- What a wait for a child finds. -/
inductive Reaped where
  | child (process : Nat) (ending : Ending)
  /-- There are children, but none of them has ended. -/
  | notYet
  | noChild
  /-- A signal came first. -/
  | interrupted
  deriving DecidableEq, Repr

/-- The variables of a program, in the order in which they are handed over. -/
abbrev Settings := List (Raw × Raw)

/-- What a program asks of the system. -/
inductive Request where
  /-- Some work of its own. The answer is the signals that were caught since. -/
  | work
  | read (descriptor limit : Nat)
  | write (descriptor : Nat) (bytes : Bytes)
  | openFile (path : Raw) (mode : OpenMode)
  | close (descriptor : Nat)
  /-- The lowest free descriptor from `least` on; a private one ends with the program. -/
  | duplicate (descriptor least : Nat) (isPrivate : Bool)
  | duplicateTo (descriptor target : Nat)
  /-- A pipe: the descriptors of its two ends. -/
  | pipe
  /-- A copy of the process. The answer is its number, and 0 in the copy. -/
  | fork
  /-- Becomes another program; there is an answer only if that fails. -/
  | execute (path : Raw) (arguments : List Raw) (settings : Settings)
  | wait (blocking : Bool)
  | kill (target : Int) (signal : Nat)
  | handle (signal : Nat) (disposition : Disposition)
  | sleep (nanoseconds : Nat)
  | look (path : Raw) (follow : Bool)
  | lookAt (descriptor : Nat)
  | names (path : Raw)
  | change (action : FileAction)
  | readLink (path : Raw)
  | enter (path : Raw)
  | directory
  | setMask (mask : Nat)
  | limit (resource : Resource)
  | setLimit (resource : Resource) (limit : Limit)
  /-- The numbers of the process and of its parent. -/
  | number
  /-- The time in nanoseconds. -/
  | clock
  deriving DecidableEq, Repr

/-- What a request is answered with. -/
abbrev Request.Answer : Request → Type
  | .work => List Nat
  | .read _ _ => Except IoError Bytes
  | .write _ _ => Except IoError Unit
  | .openFile _ _ => Except IoError Nat
  | .close _ => Except IoError Unit
  | .duplicate _ _ _ => Except IoError Nat
  | .duplicateTo _ _ => Except IoError Unit
  | .pipe => Nat × Nat
  | .fork => Nat
  | .execute _ _ _ => IoError
  | .wait _ => Reaped
  | .kill _ _ => Except IoError Unit
  | .handle _ _ => Disposition
  | .sleep _ => Unit
  | .look _ _ => Except IoError FileStatus
  | .lookAt _ => Except IoError FileStatus
  | .names _ => Except IoError (List Raw)
  | .change _ => Except IoError Unit
  | .readLink _ => Except IoError Raw
  | .enter _ => Except IoError Unit
  | .directory => Except IoError Raw
  | .setMask _ => Nat
  | .limit _ => Limit
  | .setLimit _ _ => Except IoError Unit
  | .number => Nat × Nat
  | .clock => Nat

/-- Something that a program does, with a result. -/
abbrev Act (α : Type) := Script Request Request.Answer α

/-- A program; its result is the status that it ends with. -/
abbrev Program := Act Nat

/-- Makes a request. -/
def ask (request : Request) : Act request.Answer := Script.ask request

/-- Writes a text; what goes wrong is left aside. -/
def tell (descriptor : Nat) (text : Raw) : Act Unit := do
  let _ ← ask (.write descriptor (Raw.toBytes text))
  return ()

/-- The wording of a fault of the system. -/
def wording (cause : IoError) : Raw :=
  let message := cause.message.toList
  ((Text.cut '(' message).map fun (before, _) => before.dropLast).getD message

/-- The path of a name in a directory; an empty path means the directory that one is in. -/
def inDirectory (directory name : Raw) : Raw :=
  if directory.isEmpty then name else directory ++ '/' :: name

/-- The paths that a name may have in the directories of a search path. -/
def pathsIn (searchPath name : Raw) : List Raw :=
  (Text.splitAt ':' searchPath).map (inDirectory · name)

/-- The paths that a program may have: a name is looked for in a search path. -/
def pathsOf (searchPath program : Raw) : List Raw :=
  if program.contains '/' then [program] else pathsIn searchPath program

end Judge.Host
