import Judge.Host.Shell.Expansion
import Judge.Host.Shell.Process

/-!
Redirections: what they open, and how they are undone.
-/

namespace Judge.Host.Shell

/-- What a descriptor is redirected to. -/
inductive Connection where
  | file (path : Raw) (kind : RedirectionKind)
  /-- What another descriptor stands for; nothing if there is none. -/
  | descriptor (source : Option Nat)
  | text (text : Raw)

/-- A redirection of a descriptor to something definite. -/
structure Rerouting where
  descriptor : Nat
  target : Connection

namespace Redirection

/-- Expands the words of a redirection. -/
def expand (substitute : Option Node → Sh Raw) : Redirection → Sh Rerouting
  | .mk (.document number) descriptor _ => do
    let word := ((← get).documents.lookup number).getD []
    let text ← Expansion.expandText substitute { quoted := true } word
    return ⟨descriptor, .text text⟩
  | .mk .duplicate descriptor word => do
    let words ← Expansion.expandFields substitute word
    match words.headD [] with
    | ['-'] => return ⟨descriptor, .descriptor none⟩
    | [d] =>
      if d.isDigit then return ⟨descriptor, .descriptor (some (d.toNat - 48))⟩
      else Sh.fail "Syntax error: Bad fd number".toList
    | _ => Sh.fail "Syntax error: Bad fd number".toList
  | .mk kind descriptor word => do
    let path ← Expansion.expandText substitute { tilde := true } word
    return ⟨descriptor, .file path kind⟩

/-- Expands the words of redirections. -/
def expandAll (substitute : Option Node → Sh Raw) : List Redirection → Sh (List Rerouting)
  | [] => return []
  | first :: rest => do
    let first ← expand substitute first
    return first :: (← expandAll substitute rest)

/-- Opens a file for writing, which must not be there yet unless it is no regular file. -/
def openFresh (path : Raw) : Sh (Except IoError Nat) := do
  match ← Sh.ask (.look path true) with
  | .error _ => Sh.ask (.openFile path .create)
  | .ok status =>
    if status.kind = .regular then return .error .exists else Sh.ask (.openFile path .write)

/-- Opens the file of a redirection. -/
def openPath (path : Raw) (kind : RedirectionKind) : Sh Nat := do
  let opened ← match kind with
    | .read => Sh.ask (.openFile path .read)
    | .append => Sh.ask (.openFile path .append)
    | .update => Sh.ask (.openFile path .update)
    | .write => do
      if (← get).hasOption 'C' then openFresh path else Sh.ask (.openFile path .write)
    | _ => Sh.ask (.openFile path .write)
  match opened with
  | .ok descriptor => return descriptor
  | .error cause =>
    let isMissing := cause = .missing ∨ cause = .notDirectory
    let reading := kind matches .read
    let reason := if isMissing then
        (if reading then "No such file" else "Directory nonexistent").toList
      else wording cause
    Sh.fail ((if reading then "cannot open " else "cannot create ").toList ++ path ++ ": ".toList ++
      reason)

/-- How long a text may be that a pipe takes at once. -/
def documentSize : Nat := 4096

/-- Opens a text for reading. A long one is written by a process of its own. -/
def openText (text : Raw) : Sh Nat := do
  let (reader, writer) ← Sh.ask .pipe
  if text.length ≤ documentSize then Sh.say writer text
  else
    let _ ← Sh.start none false fun _ =>
      .call (.close reader) fun _ => .call (.write writer (Raw.toBytes text)) fun _ => .done 0
  let _ ← Sh.ask (.close writer)
  return reader

/-- Complains about a descriptor. -/
def badDescriptor {α : Type} (descriptor : Nat) (cause : IoError) : Sh α :=
  Sh.fail (Sh.showNat descriptor ++ ": ".toList ++ wording cause)

/-- Keeps what a descriptor stands for, and closes it. -/
def keep (descriptor : Nat) : Sh Before := do
  match ← Sh.ask (.duplicate descriptor 10 true) with
  | .error .badDescriptor => return .closed
  | .error cause => badDescriptor descriptor cause
  | .ok kept =>
    let _ ← Sh.ask (.close descriptor)
    return .kept kept

/-- Makes a descriptor stand for what another one does, which is closed if it was opened for that. -/
def connect (descriptor source : Nat) (opened : Bool) : Sh Unit := do
  if descriptor ≠ source then
    let result ← Sh.ask (.duplicateTo source descriptor)
    if opened then let _ ← Sh.ask (.close source)
    match result with
    | .ok _ => return ()
    | .error cause => badDescriptor source cause

/-- Notes what a descriptor stood for, unless something is noted already. -/
def note (descriptor : Nat) (before : Sh Before) : Sh Unit := do
  match (← get).redirected with
  | [] => return ()
  | frame :: rest =>
    if frame.any (·.1 == descriptor) then return ()
    let before ← before
    modify fun s => { s with redirected := ((descriptor, before) :: frame) :: rest }

/-- Moves something that was opened to a descriptor. -/
def attach (undoable : Bool) (descriptor source : Nat) : Sh Unit := do
  if undoable then
    note descriptor (if source = descriptor then pure .closed else keep descriptor)
  connect descriptor source true

/-- Does what a redirection says. What it changes is noted if it is to be undone. -/
def apply (undoable : Bool) (r : Rerouting) : Sh Unit := do
  match r.target with
  | .file path kind => attach undoable r.descriptor (← openPath path kind)
  | .text text => attach undoable r.descriptor (← openText text)
  | .descriptor source =>
    if source = some r.descriptor then return ()
    if undoable then note r.descriptor (keep r.descriptor)
    match source with
    | none => let _ ← Sh.ask (.close r.descriptor)
    | some source => connect r.descriptor source false

/-- Does what redirections say, one after the other. -/
def applyAll (undoable : Bool) : List Rerouting → Sh Unit
  | [] => return ()
  | first :: rest => do
    apply undoable first
    applyAll undoable rest

/-- Opens a frame for redirections that are to be undone. -/
def push : Sh Unit := modify fun s => { s with redirected := [] :: s.redirected }

/-- Gives descriptors back what they stood for before, or only forgets it. -/
def restore (forget : Bool) : List (Nat × Before) → Sh Unit
  | [] => return ()
  | (descriptor, .closed) :: rest => do
    if !forget then let _ ← Sh.ask (.close descriptor)
    restore forget rest
  | (descriptor, .kept kept) :: rest => do
    if !forget then let _ ← Sh.ask (.duplicateTo kept descriptor)
    let _ ← Sh.ask (.close kept)
    restore forget rest

/-- Undoes the redirections of the innermost frame, or lets them stay. -/
def pop (forget : Bool) : Sh Unit := do
  match (← get).redirected with
  | [] => return ()
  | frame :: rest =>
    modify fun s => { s with redirected := rest }
    restore forget frame

/-- Undoes redirections until so many frames are left. -/
def unwind (left : Nat) : Sh Unit := do
  let frames := (← get).redirected
  let inner := frames.take (frames.length - left)
  modify fun s => { s with redirected := frames.drop (frames.length - left) }
  restore false inner.flatten

/-- Does what redirections say. The result is a status: a failure does not stop anything. -/
def applySafely (redirections : List Rerouting) : Sh Nat :=
  Sh.orElse (do applyAll true redirections; return 0) fun
    | .failure => return 2
    | reason => Sh.stop reason

end Redirection
end Judge.Host.Shell
