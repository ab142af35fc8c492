import Judge.Host.Shell.Token

/-!
The state of reading a word, and the parts of words that need no commands to be read: the names of
parameters, redirections, and the end marks of documents.
-/

namespace Judge.Host.Shell

/-- How characters are taken. -/
inductive Mode where
  | base
  | single
  | double
  | arithmetic
  deriving DecidableEq, Repr

/-- A level of nested ways of taking characters. -/
structure Level where
  mode : Mode
  doubled : Bool := false
  /-- Whether double quotes are open inside of an expansion. -/
  innerDoubled : Bool := false
  /-- Whether an expansion opened the level. -/
  ofExpansion : Bool := false
  /-- How many expansions are open. -/
  expansions : Nat := 0
  /-- How many of them are in double quotes. -/
  doubledExpansions : Nat := 0
  /-- How many parentheses are open in an expression. -/
  parentheses : Nat := 0
  deriving Repr

/-- Something open whose word is being read. -/
inductive Opened where
  | parameter (name : Raw) (use : Use) (colon : Bool)
  | arithmetic
  deriving Repr

/-- The part of a word that something open becomes. -/
def Opened.close (word : Word) : Opened → Part
  | .parameter name use colon => .parameter name use colon word
  | .arithmetic => .arithmetic word

/-- The state of reading a word. All parts are kept in reverse. -/
structure Scan where
  level : Level
  /-- The levels around it. -/
  outer : List Level := []
  parts : List Part := []
  /-- What is open, each with the parts in front of it. -/
  opened : List (Opened × List Part) := []
  quoted : Bool := false
  /-- The document that is read. -/
  document : Option Announced := none

namespace Scan

/-- Adds a part. -/
def add (scan : Scan) (part : Part) : Scan := { scan with parts := part :: scan.parts }

/-- Opens something. -/
def push (scan : Scan) (opened : Opened) : Scan :=
  { scan with opened := (opened, scan.parts) :: scan.opened, parts := [] }

/-- Closes what was opened last. -/
def close (scan : Scan) : Scan :=
  match scan.opened with
  | [] => scan
  | (opened, before) :: rest =>
    { scan with parts := opened.close scan.parts.reverse :: before, opened := rest }

/-- Goes to a new level. -/
def deepen (scan : Scan) (level : Level) : Scan :=
  { scan with level, outer := scan.level :: scan.outer }

/-- Goes back to the level around. -/
def rise (scan : Scan) : Scan :=
  match scan.outer with
  | [] => scan
  | level :: outer => { scan with level, outer }

/-- Adds a mark where quotes count. -/
def addMark (scan : Scan) : Scan := if scan.document.isNone then scan.add .mark else scan

/-- Opens or closes double quotes. -/
def toggle (scan : Scan) : Scan :=
  (if 0 < scan.level.expansions then
    { scan with level := { scan.level with innerDoubled := !scan.level.innerDoubled } }
  else scan).addMark

/-- Adds a character that may have a meaning to patterns and tildes, which quotes take away. -/
def addSpecial (scan : Scan) (c : Char) : Scan :=
  scan.add (.char c (scan.document.isNone || scan.level.doubled))

end Scan

/-- Characters with a meaning to patterns and tildes. -/
def isSpecial (c : Char) : Bool := "!*?[=~:/-]".toList.contains c

/-- Characters that end a word. -/
def isDelimiter (c : Char) : Bool := "\n<>();&| \t".toList.contains c

/-- Parameters that are not variables. -/
def isSpecialParameter (c : Char) : Bool := c.isDigit || "#?$!-*@".toList.contains c

/-- Takes name characters. -/
def readWhile (accept : Char → Bool) : Nat → Raw → Read Raw
  | 0, name => return name
  | steps + 1, name => do
    let found ← Read.next
    match found with
    | some c =>
      if accept c then readWhile accept steps (name ++ [c])
      else
        Read.unread found
        return name
    | none => return name

/-- The rest of a line. -/
def skipComment : Read Unit := modify fun r =>
  let (line, rest) := r.rest.span (· != '\n')
  { r with rest, left := r.left - line.length }

/-- Reads the rest of a redirection behind its first character. -/
def readRedirection (descriptor : Option Nat) (c : Char) : Read Token := do
  let kind ← if c == '>' then do
      if ← Read.take '>' then pure .append
      else if ← Read.take '|' then pure .overwrite
      else if ← Read.take '&' then pure .duplicate
      else pure .write
    else do
      if ← Read.take '<' then do
        let stripped ← Read.take '-'
        let number := (← get).nextDocument
        modify fun r => { r with stripped, nextDocument := number + 1 }
        pure (.document number)
      else if ← Read.take '&' then pure .duplicate
      else if ← Read.take '>' then pure .update
      else pure .read
  let descriptor := descriptor.getD (if c == '>' then 1 else 0)
  modify fun r => { r with kind, descriptor }
  Read.give .redirection

/-- The rest of a text behind its first line, if that line is a mark. -/
def behindMark? (mark text : Raw) : Option (Raw × Nat) :=
  let (line, rest) := text.span (· != '\n')
  if line == mark then some (rest.drop 1, line.length + (if rest.isEmpty then 0 else 1)) else none

/-- At the start of a line of a document: drops tabs, and tells whether the document ends there. -/
def atDocumentStart (document : Announced) (continued : Bool) : Read Bool := do
  if continued then Read.continueLine
  modify fun r =>
    let tabs := if document.stripped then (r.rest.takeWhile (· == '\t')).length else 0
    { r with rest := r.rest.drop tabs, left := r.left - tabs }
  let r ← get
  match behindMark? document.mark r.rest with
  | none => return r.rest.isEmpty
  | some (rest, used) =>
    set { r with rest, left := r.left - used, line := r.line + 1 }
    return true

/-- The text of an old command substitution behind the opening backquote. -/
def readBackquoted (doubled : Bool) : Nat → Raw → Read Raw
  | 0, _ => throw .tooDeep
  | steps + 1, text => do
    match ← Read.next with
    | none => Read.fail "EOF in backquote substitution"
    | some '\x60' => return text.reverse
    | some '\\' =>
      match ← Read.char with
      | none => readBackquoted doubled steps ('\\' :: text)
      | some c =>
        if c == '\\' || c == '\x60' || c == '$' || (doubled && c == '\x22') then
          readBackquoted doubled steps (c :: text)
        else readBackquoted doubled steps (c :: '\\' :: text)
    | some c => readBackquoted doubled steps (c :: text)

/-- The use that an operator behind the name of a parameter stands for. -/
def useOf? : Char → Option Use
  | '\x7d' => some .plain
  | '-' => some .default
  | '+' => some .alternative
  | '?' => some .require
  | '=' => some .assign
  | _ => none

/-- Opens the word of an expansion. -/
def openParameter (scan : Scan) (name : Raw) (use : Use) (colon : Bool) (mode : Mode) : Scan :=
  let mode := if mode = .arithmetic then .double else mode
  let scan := scan.push (.parameter name use colon)
  let scan :=
    if mode ≠ scan.level.mode ∨ scan.level.innerDoubled then
      scan.deepen { mode, ofExpansion := true, doubled := mode ≠ .base }
    else scan
  let level := scan.level
  { scan with
    level := { level with
      expansions := level.expansions + 1
      doubledExpansions := level.doubledExpansions + (if level.doubled then 1 else 0) } }

/-- Reads the use of a parameter whose name was read between braces. -/
def readUse (scan : Scan) (name : Raw) : Read Scan := do
  let found ← Read.next
  let mode := scan.level.mode
  match found with
  | some ':' =>
    let operator ← Read.next
    match operator.bind useOf? with
    | some use => return openParameter scan name use true mode
    | none =>
      Read.unread operator
      return openParameter scan name .bad true mode
  | some '%' => return openParameter scan name (.trim false (← Read.take '%')) false .base
  | some '#' => return openParameter scan name (.trim true (← Read.take '#')) false .base
  | _ =>
    match found.bind useOf? with
    | some .plain => return scan.add (.parameter name .plain false [])
    | some use => return openParameter scan name use false mode
    | none =>
      Read.unread found
      return openParameter scan name .bad false mode

/-- Reads the name of a parameter, given its first character. -/
def readName (limit : Nat) (braced : Bool) (c : Char) : Read Raw := do
  if isNameStart c then readWhile isNameChar limit [c]
  else if c.isDigit && braced then readWhile Char.isDigit limit [c]
  else return [c]

/-- Reads an expansion behind its opening brace. -/
def readBraced (scan : Scan) (limit : Nat) : Read Scan := do
  let found ← Read.next
  let mode := scan.level.mode
  let named (c : Char) : Read Scan := do readUse scan (← readName limit true c)
  match found with
  | some '\x7d' =>
    Read.unread found
    return openParameter scan [] .bad false mode
  | some '#' =>
    let second ← Read.next
    match second with
    | some c =>
      if isNameChar c then
        let name ← if c.isDigit then pure [c] else readName limit true c
        let ending ← Read.next
        Read.unread ending
        return openParameter scan name
          (if ending == some '\x7d' then .length else .bad) false mode
      else
        let third ← Read.next
        Read.unread third
        if c != '\x7d' && third == some '\x7d' then
          if isSpecialParameter c then return openParameter scan [c] .length false mode
          else return openParameter scan [] .bad false mode
        else
          Read.unread second
          readUse scan ['#']
    | none => readUse scan ['#']
  | some c =>
    if isNameStart c || isSpecialParameter c then named c
    else return openParameter scan [] .bad false mode
  | none => return openParameter scan [] .bad false mode

end Judge.Host.Shell
