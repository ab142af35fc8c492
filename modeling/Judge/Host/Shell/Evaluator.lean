import Judge.Host.Shell.Parser
import Judge.Host.Shell.Process
import Judge.Host.Shell.Redirection

/-!
What the commands of a shell need of its evaluation: running commands and texts, the traps, and the
end of a shell.
-/

namespace Judge.Host.Shell

/-- What bears on a command from outside. -/
structure Flags where
  /-- Whether the shell ends with it. -/
  exit : Bool := false
  /-- Whether its failure is looked at. -/
  tested : Bool := false
  deriving Repr

/-- The evaluation of commands. -/
structure Evaluator where
  /-- Runs a command, none for nothing. -/
  node : Flags → Option Node → Sh Nat
  /-- Runs a text. The shell goes on behind it in any case. -/
  text : Flags → Raw → Sh Nat

namespace Evaluator

/-- Sets the status back to what the traps have found, unless they returned another one. -/
def afterTrap (status : Nat) : Sh Unit := modify fun s =>
  if s.skip = .return true then s else { s with status }

/-- Runs the traps of signals. Those that come while something is passed over have to wait. -/
def runTraps (e : Evaluator) (status : Nat) : List Nat → Sh Unit
  | [] => return ()
  | signal :: rest => do
    let s ← get
    if s.skip ≠ .none then modify fun s => { s with pending := signal :: rest ++ s.pending }
    else
      match s.traps.lookup signal with
      | none => pure ()
      | some action =>
        let _ ← e.text {} action
        afterTrap status
      runTraps e status rest

/-- Runs the traps of the signals that have come. -/
def checkTraps (e : Evaluator) : Sh Unit := do
  let s ← get
  if !s.pending.isEmpty then
    let status := s.exitStatus.getD s.status
    set { s with pending := [], exitStatus := some status }
    runTraps e status s.pending
    modify fun after => { after with exitStatus := s.exitStatus }

/-- Makes the shell ready to end. -/
def settle (reason : Stop) (afterTrap : Bool) : Sh Unit := do
  modify fun s => { s with
    status := match s.exitStatus with
      | some status => if reason = .exit || afterTrap then status else s.status
      | none => s.status
    exitStatus := none, skip := .none, loops := 0, tracing := false }
  Redirection.unwind 0

/-- Ends the shell, after what is to be done at its end. -/
def leave (e : Evaluator) (reason : Stop) : Sh Unit := do
  settle reason false
  let s ← get
  set { s with exitStatus := some s.status }
  let action := s.traps.lookup 0
  match action with
  | none => pure ()
  | some action =>
    modify fun s => { s with traps := s.traps.filter (·.1 ≠ 0) }
    Sh.orElse (do let _ ← e.text {} action; settle .finish true) fun reason => settle reason false
  let _ ← Sh.flush
  Sh.quit (← get).status

/-- The program of a copy of the shell that does something and then ends. -/
def childProgram (e : Evaluator) (body : Sh Unit) : Session → Program := fun s =>
  let finish (reason : Stop) (s : Session) : Program :=
    e.leave reason s (fun _ _ => .done 0) fun _ _ => .done 0
  body s (fun _ s => finish .finish s) finish

/-- Reads from a descriptor to its end. -/
def readAll (descriptor : Nat) : Nat → List Bytes → Sh Bytes
  | 0, found => return found.reverse.flatten
  | steps + 1, found => do
    match ← Sh.ask (.read descriptor 65536) with
    | .ok bytes =>
      if bytes.isEmpty then return found.reverse.flatten
      else readAll descriptor steps (bytes :: found)
    | .error .interrupted =>
      Sh.notice
      readAll descriptor steps found
    | .error _ => return found.reverse.flatten

/-- The output of a command, which a copy of the shell runs. -/
def substitute (e : Evaluator) (body : Option Node) : Sh Raw := do
  match body with
  | none => return []
  | some body =>
    let (reader, writer) ← Sh.ask .pipe
    let job ← Sh.makeJob
    let child : Sh Unit := do
      let _ ← Sh.ask (.close reader)
      if writer ≠ 1 then
        let _ ← Sh.ask (.duplicateTo writer 1)
        let _ ← Sh.ask (.close writer)
      let _ ← e.node { exit := true } (some body)
    let _ ← Sh.start (some job) false (e.childProgram child)
    let _ ← Sh.ask (.close writer)
    let output ← readAll reader Sh.tries []
    let _ ← Sh.ask (.close reader)
    let status ← Sh.finish job
    modify fun s => { s with substituted := status }
    return Raw.ofBytes output

/-- Expands a word to one text. -/
def expandText (e : Evaluator) (m : Manner) (word : Word) : Sh Raw :=
  Expansion.expandText e.substitute m word

/-- Expands a word to the words that it becomes. -/
def expandFields (e : Evaluator) (word : Word) : Sh (List Raw) :=
  Expansion.expandFields e.substitute word

/-- A text as a word of which parameters and commands are expanded, none if that makes no sense. -/
def readPrompt? (s : Session) (text : Raw) : Option (Word × Reader) :=
  let document : Announced := { number := 0, mark := ['\n'], stripped := false, expanded := true }
  let scan : Scan :=
    { level := { mode := .double, doubled := true }, document := some document }
  let r := Reader.ofText text s.aliases s.nextDocument
  match (readWord scan false (readingDepth r)).run r with
  | .ok (_, r) => some (r.word, r)
  | .error _ => none

/-- The text of a prompt. -/
def expandPrompt (e : Evaluator) (text : Raw) : Sh Raw := do
  match readPrompt? (← get) text with
  | none => return text
  | some (word, r) =>
    modify fun s => { s with
      documents := r.documents ++ s.documents, nextDocument := r.nextDocument }
    e.expandText { quoted := true } word

end Evaluator
end Judge.Host.Shell
