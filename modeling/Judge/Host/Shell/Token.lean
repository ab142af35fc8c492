import Judge.Host.Shell.Command

/-!
The tokens of shell programs, and the state of reading one. Characters are taken one by one; outside
of single quotes a backslash in front of a line end takes it away.
-/

namespace Judge.Host.Shell

/-- The reserved words. -/
inductive Keyword where
  | negate
  | caseWord
  | doWord
  | done
  | elif
  | elseWord
  | esac
  | fi
  | forWord
  | ifWord
  | inWord
  | thenWord
  | untilWord
  | whileWord
  | opening
  | closing
  deriving DecidableEq, Repr

/-- The spelling of each reserved word. -/
def Keyword.text : Keyword → String
  | .negate => "!"
  | .caseWord => "case"
  | .doWord => "do"
  | .done => "done"
  | .elif => "elif"
  | .elseWord => "else"
  | .esac => "esac"
  | .fi => "fi"
  | .forWord => "for"
  | .ifWord => "if"
  | .inWord => "in"
  | .thenWord => "then"
  | .untilWord => "until"
  | .whileWord => "while"
  | .opening => "\x7b"
  | .closing => "\x7d"

/-- All reserved words. -/
def Keyword.all : List Keyword :=
  [.negate, .caseWord, .doWord, .done, .elif, .elseWord, .esac, .fi, .forWord, .ifWord, .inWord,
    .thenWord, .untilWord, .whileWord, .opening, .closing]

/-- The reserved word with a spelling. -/
def Keyword.ofText? (text : Raw) : Option Keyword :=
  Keyword.all.find? fun keyword => keyword.text.toList == text

/-- A token. -/
inductive Token where
  | finish
  | newline
  | redirection
  | word
  | semicolon
  | background
  | and
  | or
  | pipe
  | opening
  | closing
  | endOfBranch
  | keyword (k : Keyword)
  deriving DecidableEq, Repr

/-- A token as complaints show it. -/
def Token.shown : Token → String
  | .finish => "end of file"
  | .newline => "newline"
  | .redirection => "redirection"
  | .word => "word"
  | .semicolon => "\x22;\x22"
  | .background => "\x22&\x22"
  | .and => "\x22&&\x22"
  | .or => "\x22||\x22"
  | .pipe => "\x22|\x22"
  | .opening => "\x22(\x22"
  | .closing => "\x22)\x22"
  | .endOfBranch => "\x22;;\x22"
  | .keyword k => "\x22" ++ k.text ++ "\x22"

/-- Whether a list of commands ends in front of a token. -/
def Token.endsList : Token → Bool
  | .finish | .closing | .endOfBranch => true
  | .keyword k =>
    [.doWord, .done, .elif, .elseWord, .esac, .fi, .thenWord, .closing].contains k
  | _ => false

/-- What is looked for in the next token. -/
structure Check where
  /-- Line ends are passed over. -/
  newlines : Bool := false
  keywords : Bool := false
  aliases : Bool := false
  /-- The token is the end mark of a document, in which nothing is expanded. -/
  mark : Bool := false
  deriving Repr

/-- A document that is announced and not read yet. -/
structure Announced where
  number : Nat
  mark : Raw
  /-- Whether tabs in front of its lines are dropped. -/
  stripped : Bool
  /-- Whether it is expanded. -/
  expanded : Bool
  deriving Repr

/-- The state of reading a program. -/
structure Reader where
  rest : Raw
  /-- How long the rest is. -/
  left : Nat
  line : Nat := 1
  /-- Whether the last token is to be read again. -/
  pushed : Bool := false
  token : Token := .newline
  /-- The word that was read last, and whether a part of it was quoted. -/
  word : Word := []
  quoted : Bool := false
  /-- The redirection that was read last. -/
  kind : RedirectionKind := .read
  descriptor : Nat := 0
  stripped : Bool := false
  check : Check := {}
  announced : List Announced := []
  /-- The documents that were read. -/
  documents : List (Nat × Word) := []
  nextDocument : Nat := 0
  aliases : List (Raw × Raw) := []
  /-- The aliases that are being read, with what is left when they end. -/
  entered : List (Raw × Nat) := []

/-- Why reading stops. -/
inductive Fault where
  | complaint (line : Nat) (message : String)
  /-- Too much is nested. -/
  | tooDeep

/-- A part of reading. -/
abbrev Read (α : Type) := StateT Reader (Except Fault) α

/-- Starts to read a text. -/
def Reader.ofText (text : Raw) (aliases : List (Raw × Raw)) (nextDocument : Nat) : Reader :=
  { rest := text, left := text.length, aliases, nextDocument }

namespace Read

/-- Stops with a complaint. -/
def fail {α : Type} (message : String) : Read α := do throw (.complaint (← get).line message)

/-- Complains about the last token. -/
def unexpected {α : Type} (expected : Option Token) : Read α := do
  let shown := (← get).token.shown
  match expected with
  | none => fail (shown ++ " unexpected")
  | some token => fail (shown ++ " unexpected (expecting " ++ token.shown ++ ")")

/-- Leaves the aliases that have been read to their end. One that ends with a blank has the next word
looked up too. -/
def leaveAliases : Read Unit := modify fun r =>
  let (over', inside) := r.entered.span fun (_, left) => r.left ≤ left
  if over'.isEmpty then r
  else
    let blank := over'.any fun (name, _) =>
      ((r.aliases.lookup name).bind (·.getLast?)).any fun c => c == ' ' || c == '\t'
    { r with
      entered := inside
      check := if blank then { r.check with aliases := true } else r.check }

/-- Takes the next character. -/
def char : Read (Option Char) := do
  leaveAliases
  let r ← get
  match r.rest with
  | [] => return none
  | c :: rest =>
    set { r with rest, left := r.left - 1, line := if c == '\n' then r.line + 1 else r.line }
    return some c

/-- Puts a character back. -/
def unread : Option Char → Read Unit
  | none => return ()
  | some c => modify fun r =>
    { r with
      rest := c :: r.rest, left := r.left + 1,
      line := if c == '\n' then r.line - 1 else r.line }

/-- The rest of a text without line ends behind backslashes in front, and how many those were. -/
def dropContinued : Raw → Nat → Raw × Nat
  | '\\' :: '\n' :: rest, n => dropContinued rest (n + 1)
  | rest, n => (rest, n)

/-- Passes over line ends behind backslashes. -/
def continueLine : Read Unit := modify fun r =>
  match dropContinued r.rest 0 with
  | (_, 0) => r
  | (rest, n) => { r with rest, left := r.left - 2 * n, line := r.line + n }

/-- Takes the next character behind line ends that are taken away. -/
def next : Read (Option Char) := do
  continueLine
  char

/-- Takes the next character if it is the given one. -/
def take (c : Char) : Read Bool := do
  let found ← next
  if found == some c then return true
  unread found
  return false

/-- Has the last token read again. -/
def pushBack : Read Unit := modify fun r => { r with pushed := true }

/-- Gives back a token. -/
def give (token : Token) : Read Token := do
  modify fun r => { r with token }
  return token

/-- Sets what is looked for in the next token. -/
def look (check : Check) : Read Unit := modify fun r => { r with check }

end Read
end Judge.Host.Shell
