import Judge.Host
import Judge.Host.Program

/-!
The machine that programs run on: the files of a host, what is open, the processes, and a clock. A
request that cannot be answered yet leaves the machine as it is.
-/

namespace Judge.Host

/-- Bytes on their way, the ones to be taken first in front. -/
structure Queue where
  front : Bytes := []
  /-- The pieces that came later, the last one first. -/
  later : List Bytes := []
  size : Nat := 0
  deriving Repr, Inhabited

namespace Queue

/-- Adds bytes. -/
def push (queue : Queue) (bytes : Bytes) : Queue :=
  { queue with later := bytes :: queue.later, size := queue.size + bytes.length }

/-- All bytes in their order. -/
def toList (queue : Queue) : Bytes := queue.front ++ queue.later.reverse.flatten

/-- Takes at most so many bytes. -/
def pop (queue : Queue) (limit : Nat) : Bytes × Queue :=
  let bytes := if queue.front.isEmpty then queue.toList else queue.front
  let later := if queue.front.isEmpty then [] else queue.later
  let taken := bytes.take limit
  (taken, { front := bytes.drop limit, later, size := queue.size - taken.length })

/-- What is pushed comes after what is there. -/
theorem toList_push (queue : Queue) (bytes : Bytes) :
    (queue.push bytes).toList = queue.toList ++ bytes := by
  simp [push, toList]

/-- What is taken and what is left make up what was there. -/
theorem toList_pop (queue : Queue) (limit : Nat) :
    (queue.pop limit).1 ++ (queue.pop limit).2.toList = queue.toList := by
  unfold pop toList
  by_cases h : queue.front.isEmpty <;> simp [h, ← List.append_assoc, List.take_append_drop]

end Queue

/-- What is open. -/
inductive OpenFile where
  /-- Reads are empty and writes are lost. -/
  | null
  /-- Reads never end. -/
  | zero
  /-- Writes find no space. -/
  | full
  /-- Keeps what is written. -/
  | collector (written : Queue)
  /-- A file at a position. What lies behind it is kept as it was when the files had a stamp. -/
  | file (place : Location) (position : Nat) (mode : OpenMode) (stamp : Nat) (behind : Bytes)
  /-- A file that no path leads to any more. -/
  | lost (content : Bytes) (position : Nat) (mode : OpenMode)
  | directory (place : Location)
  | pipeReader (pipe : Nat)
  | pipeWriter (pipe : Nat)
  deriving Repr, Inhabited

/-- What a number stands for in a process. -/
structure Descriptor where
  number : Nat
  /-- Where it is among the open files. -/
  file : Nat
  /-- Whether it is closed when the process becomes another program. -/
  isPrivate : Bool := false
  deriving Repr

/-- A process. -/
structure Process where
  /-- None for the first process. -/
  parent : Option Nat := none
  program : Program
  descriptors : List Descriptor := []
  directory : Location := []
  /-- The permissions that new files do not get. -/
  mask : Nat := 0o22
  limits : List (Resource × Limit) := []
  dispositions : List (Nat × Disposition) := []
  /-- The signals that it was not told of yet. -/
  caught : List Nat := []
  /-- When it wakes up. -/
  wake : Option Nat := none
  stopped : Bool := false
  ending : Option Ending := none

instance : Inhabited Process := ⟨{ program := .done 0 }⟩

/-- The programs that a machine comes with: what each does with its arguments, the first of which is
the name that it was called by. -/
abbrev Programs := Raw → Option (List Raw → Settings → Program)

/-- The machine. -/
structure Machine where
  programs : Programs
  tree : FileTree
  /-- Changes whenever a file does. -/
  stamp : Nat := 0
  files : Array OpenFile := #[]
  pipes : Array Queue := #[]
  processes : Array Process := #[]
  /-- The processes that have not ended, or whose end somebody may still wait for. -/
  present : List Nat := []
  /-- In nanoseconds. -/
  clock : Nat := 0

instance : Inhabited Machine := ⟨{ programs := fun _ => none, tree := {} }⟩

namespace Machine

/-- The number of the first process. -/
def firstNumber : Nat := 2000

/-- The number of a process. -/
def numberOf (index : Nat) : Nat := firstNumber + index

/-- How many bytes a pipe holds. -/
def pipeSize : Nat := 65536

/-- Changes a process. -/
def modifyProcess (m : Machine) (index : Nat) (change : Process → Process) : Machine :=
  { m with processes := m.processes.modify index change }

/-- Lets a process go on with a program. -/
def goOn (m : Machine) (index : Nat) (program : Program) : Machine :=
  m.modifyProcess index fun p => { p with program }

/-- The open file that a descriptor of a process stands for, and where it is. -/
def openFile? (m : Machine) (p : Process) (descriptor : Nat) : Option (Nat × OpenFile) := do
  let entry ← p.descriptors.find? (·.number == descriptor)
  return (entry.file, ← m.files[entry.file]?)

/-- The lowest number from `least` on that no descriptor has. -/
def freeNumber (p : Process) (least : Nat) : Nat :=
  ((List.range (p.descriptors.length + 1)).map (least + ·)).find?
    (fun n => p.descriptors.all (·.number != n)) |>.getD least

/-- Gives a process a descriptor. -/
def addDescriptor (m : Machine) (index : Nat) (d : Descriptor) : Machine :=
  m.modifyProcess index fun p =>
    { p with descriptors := d :: p.descriptors.filter (·.number != d.number) }

/-- Puts an open file in place of another. -/
def setFile (m : Machine) (file : Nat) (content : OpenFile) : Machine :=
  { m with files := m.files.setIfInBounds file content }

/-- Whether a process holds an open file. -/
def isHeld (m : Machine) (holds : OpenFile → Bool) : Bool :=
  m.present.any fun index => m.processes[index]?.any fun p =>
    p.descriptors.any fun d => (m.files[d.file]?).any holds

/-- Whether the other end of a pipe can still be written to. -/
def hasWriter (m : Machine) (pipe : Nat) : Bool :=
  m.isHeld fun
    | .pipeWriter p => p == pipe
    | _ => false

/-- Whether the other end of a pipe can still be read from. -/
def hasReader (m : Machine) (pipe : Nat) : Bool :=
  m.isHeld fun
    | .pipeReader p => p == pipe
    | _ => false

end Machine
end Judge.Host
