import Judge.Text.Raw

/-!
The commands of shell programs, and the words that they are made of.
-/

namespace Judge.Host.Shell

/-- What is done with the value of a parameter. -/
inductive Use where
  | plain
  | length
  /-- The word stands in for a missing value. -/
  | default
  /-- The word becomes the missing value. -/
  | assign
  /-- The word tells that the value is missing. -/
  | require
  /-- The word stands in for a value that is there. -/
  | alternative
  /-- What fits the word is cut off at the end or in front, as little or as much as possible. -/
  | trim (front longest : Bool)
  /-- There is no such use. -/
  | bad
  deriving DecidableEq, Repr

/-- What a redirection does. -/
inductive RedirectionKind where
  | read
  | write
  /-- As `write`, even over a file that is to be kept. -/
  | overwrite
  | append
  | update
  | duplicate
  /-- Reads a text that is part of the program. -/
  | document (number : Nat)
  deriving DecidableEq, Repr

mutual

/-- A part of a word. -/
inductive Part where
  /-- A character; one that is quoted has no special meaning. -/
  | char (c : Char) (quoted : Bool)
  /-- A place where quoting starts or ends. -/
  | mark
  /-- The value of a parameter; `colon` takes an empty value for a missing one. -/
  | parameter (name : Raw) (use : Use) (colon : Bool) (word : List Part)
  /-- The output of a command. -/
  | command (body : Option Node)
  | arithmetic (word : List Part)

/-- A redirection of a descriptor. -/
inductive Redirection where
  | mk (kind : RedirectionKind) (descriptor : Nat) (target : List Part)

/-- A branch of a choice: patterns and what is done if one of them fits. -/
inductive Branch where
  | mk (patterns : List (List Part)) (body : Option Node)

/-- A command, with the line that it starts on where messages need it. -/
inductive Node where
  | simple (line : Nat) (assignments words : List (List Part)) (redirections : List Redirection)
  | pipe (inBackground : Bool) (commands : List Node)
  | redirected (line : Nat) (body : Node) (redirections : List Redirection)
  | background (line : Nat) (body : Node) (redirections : List Redirection)
  | subshell (line : Nat) (body : Node) (redirections : List Redirection)
  /-- The second only if the first succeeds. -/
  | both (first second : Node)
  /-- The second only if the first fails. -/
  | either (first second : Node)
  | sequence (first second : Node)
  | negation (body : Node)
  | condition (test success : Node) (failure : Option Node)
  | loop (untilTrue : Bool) (test body : Node)
  /-- Once for each word, or for each argument. -/
  | each (line : Nat) (name : Raw) (words : Option (List (List Part))) (body : Node)
  | choice (line : Nat) (word : List Part) (branches : List Branch)
  | define (name : Raw) (body : Node)

end

/-- A word. -/
abbrev Word := List Part

/-- The characters of a word without quotes and expansions. -/
def literal? : Word → Option Raw
  | [] => some []
  | .char c false :: rest => (literal? rest).map (c :: ·)
  | _ => none

/-- Whether a character can start the name of a variable. -/
def isNameStart (c : Char) : Bool := c.isAlpha || c == '_'

/-- Whether a character can go on with the name of a variable. -/
def isNameChar (c : Char) : Bool := c.isAlphanum || c == '_'

/-- Whether a text is the name of a variable. -/
def isName : Raw → Bool
  | [] => false
  | c :: rest => isNameStart c && rest.all isNameChar

/-- The name in front of the equals sign of an assignment. -/
def assignedName? (word : Word) : Option Raw :=
  let name := word.takeWhile fun
    | .char c false => isNameChar c
    | _ => false
  match literal? name, word.drop name.length with
  | some text, .char '=' false :: _ => if isName text then some text else none
  | _, _ => none

/-- The commands whose failure ends the shell. -/
def specialNames : List String :=
  [".", ":", "break", "continue", "eval", "exec", "exit", "export", "readonly", "return", "set",
    "shift", "times", "trap", "unset"]

end Judge.Host.Shell
