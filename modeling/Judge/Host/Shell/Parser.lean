import Judge.Host.Shell.Scan

/-!
Reading shell programs. A program is read up to the end of a line on which a command is complete, so
that what one line does can bear on how the next one is read.
-/

namespace Judge.Host.Shell

mutual

/-- Reads a list of commands. Of a whole program only one line is read; none if there is nothing
left. A list that may be empty can end at once. -/
def readList (wholeProgram mayBeEmpty : Bool) (so : Option Node) (first : Bool) :
    Nat → Read (Option Node)
  | 0 => throw .tooDeep
  | depth + 1 => do
    Read.look { newlines := !wholeProgram, keywords := true, aliases := true }
    let token ← readToken depth
    match token with
    | .newline =>
      readDocuments depth
      return so
    | .finish =>
      readDocuments depth
      Read.pushBack
      modify fun r => { r with token := .finish }
      return so
    | _ =>
      Read.pushBack
      if token.endsList && !wholeProgram && (mayBeEmpty || !first) then return so
      let node ← readAndOr depth
      let token ← readToken depth
      let node := if token ≠ .background then node else
        match node with
        | .pipe _ commands => .pipe true commands
        | .redirected line body redirections => .background line body redirections
        | node => .background 0 node []
      let so := match so with
        | none => some node
        | some before => some (.sequence before node)
      match token with
      | .finish =>
        readDocuments depth
        Read.pushBack
        modify fun r => { r with token := .finish }
        return so
      | .newline =>
        Read.pushBack
        readList wholeProgram mayBeEmpty so false depth
      | .background | .semicolon => readList wholeProgram mayBeEmpty so false depth
      | _ =>
        if wholeProgram then Read.unexpected none
        Read.pushBack
        return so

/-- Reads commands that depend on each other's success. -/
def readAndOr : Nat → Read Node
  | 0 => throw .tooDeep
  | depth + 1 => do readAndOrFrom (← readPipeline depth) depth

/-- Goes on with commands that depend on the success of those before. -/
def readAndOrFrom (first : Node) : Nat → Read Node
  | 0 => throw .tooDeep
  | depth + 1 => do
    let token ← readToken depth
    if token = .and ∨ token = .or then
      Read.look { newlines := true, keywords := true, aliases := true }
      let second ← readPipeline depth
      readAndOrFrom (if token = .and then .both first second else .either first second) depth
    else
      Read.pushBack
      return first

/-- Reads a pipeline. -/
def readPipeline : Nat → Read Node
  | 0 => throw .tooDeep
  | depth + 1 => do
    let negated := (← readToken depth) == .keyword .negate
    if negated then Read.look { keywords := true, aliases := true } else Read.pushBack
    let first ← readCommand depth
    let more ← readPiped depth
    let node := if more.isEmpty then first else .pipe false (first :: more)
    return if negated then .negation node else node

/-- Reads the commands behind the first one of a pipeline. -/
def readPiped : Nat → Read (List Node)
  | 0 => throw .tooDeep
  | depth + 1 => do
    if (← readToken depth) = .pipe then
      Read.look { newlines := true, keywords := true, aliases := true }
      let command ← readCommand depth
      return command :: (← readPiped depth)
    else
      Read.pushBack
      return []

/-- Reads commands that there have to be some of. Where the text ends, the token that is asked for
next is missed. -/
def readBody : Nat → Read Node
  | 0 => throw .tooDeep
  | depth + 1 => do
    return (← readList false false none true depth).getD (.simple 0 [] [] [])

/-- Reads a token that there has to be. -/
def readExpected (token : Token) : Nat → Read Unit
  | 0 => throw .tooDeep
  | depth + 1 => do if (← readToken depth) ≠ token then Read.unexpected (some token)

/-- Reads a command. -/
def readCommand : Nat → Read Node
  | 0 => throw .tooDeep
  | depth + 1 => do
    let line := (← get).line
    match ← readToken depth with
    | .keyword .ifWord =>
      let node ← readCondition depth
      readExpected (.keyword .fi) depth
      readTrailing line node depth
    | .keyword .whileWord => readLoop line false depth
    | .keyword .untilWord => readLoop line true depth
    | .keyword .forWord =>
      let token ← readToken depth
      let r ← get
      let name := (literal? r.word).getD []
      if token ≠ .word ∨ r.quoted ∨ !isName name then Read.fail "Bad for loop variable"
      Read.look { newlines := true, keywords := true, aliases := true }
      let words ← if (← readToken depth) = .keyword .inWord then do
          let words ← readWords depth
          let ending := (← get).token
          if ending ≠ .newline ∧ ending ≠ .semicolon then Read.unexpected none
          pure (some words)
        else do
          if (← get).token ≠ .semicolon then Read.pushBack
          pure none
      Read.look { newlines := true, keywords := true, aliases := true }
      readExpected (.keyword .doWord) depth
      let body ← readBody depth
      readExpected (.keyword .done) depth
      readTrailing line (.each line name words body) depth
    | .keyword .caseWord =>
      readExpected .word depth
      let word := (← get).word
      Read.look { newlines := true, keywords := true, aliases := true }
      readExpected (.keyword .inWord) depth
      let branches ← readBranches depth
      readTrailing line (.choice line word branches) depth
    | .opening =>
      let body ← readBody depth
      readExpected .closing depth
      readTrailing line (.subshell line body []) depth
    | .keyword .opening =>
      let body ← readBody depth
      readExpected (.keyword .closing) depth
      readTrailing line body depth
    | .word | .redirection =>
      Read.pushBack
      readSimple line [] [] [] true depth
    | _ => Read.unexpected none

/-- Reads a loop behind its first word. -/
def readLoop (line : Nat) (untilTrue : Bool) : Nat → Read Node
  | 0 => throw .tooDeep
  | depth + 1 => do
    let test ← readBody depth
    readExpected (.keyword .doWord) depth
    let body ← readBody depth
    readExpected (.keyword .done) depth
    readTrailing line (.loop untilTrue test body) depth

/-- Reads a condition behind its first word, up to its last one. -/
def readCondition : Nat → Read Node
  | 0 => throw .tooDeep
  | depth + 1 => do
    let test ← readBody depth
    readExpected (.keyword .thenWord) depth
    let success ← readBody depth
    match ← readToken depth with
    | .keyword .elif => return .condition test success (some (← readCondition depth))
    | .keyword .elseWord => return .condition test success (some (← readBody depth))
    | _ =>
      Read.pushBack
      return .condition test success none

/-- Reads the words of a loop. -/
def readWords : Nat → Read (List Word)
  | 0 => throw .tooDeep
  | depth + 1 => do
    if (← readToken depth) = .word then
      let word := (← get).word
      return word :: (← readWords depth)
    else return []

/-- Reads the branches of a choice, with its last word. -/
def readBranches : Nat → Read (List Branch)
  | 0 => throw .tooDeep
  | depth + 1 => do
    Read.look { newlines := true, keywords := true }
    let token ← readToken depth
    if token = .keyword .esac then return []
    if token = .opening then let _ ← readToken depth
    let patterns ← readPatterns depth
    if (← get).token ≠ .closing then Read.unexpected (some .closing)
    let body ← readList false true none true depth
    Read.look { newlines := true, keywords := true }
    let token ← readToken depth
    if token = .keyword .esac then return [.mk patterns body]
    if token ≠ .endOfBranch then Read.unexpected (some .endOfBranch)
    return .mk patterns body :: (← readBranches depth)

/-- Reads patterns, the first of which is the last word. -/
def readPatterns : Nat → Read (List Word)
  | 0 => throw .tooDeep
  | depth + 1 => do
    let word := (← get).word
    if (← readToken depth) = .pipe then
      let _ ← readToken depth
      return word :: (← readPatterns depth)
    else return [word]

/-- Reads the redirections behind a command. -/
def readTrailing (line : Nat) (node : Node) : Nat → Read Node
  | 0 => throw .tooDeep
  | depth + 1 => do
    Read.look { keywords := true, aliases := true }
    let redirections ← readRedirections depth
    if redirections.isEmpty then return node
    match node with
    | .subshell line body _ => return .subshell line body redirections
    | node => return .redirected line node redirections

/-- Reads redirections. -/
def readRedirections : Nat → Read (List Redirection)
  | 0 => throw .tooDeep
  | depth + 1 => do
    if (← readToken depth) = .redirection then
      let redirection ← readTarget depth
      return redirection :: (← readRedirections depth)
    else
      Read.pushBack
      return []

/-- Reads the target of the last redirection. -/
def readTarget : Nat → Read Redirection
  | 0 => throw .tooDeep
  | depth + 1 => do
    let { kind, descriptor, stripped, .. } ← get
    if kind matches .document _ then Read.look { mark := true }
    if (← readToken depth) ≠ .word then Read.unexpected none
    let { word, quoted, .. } ← get
    match kind with
    | .document number =>
      let mark := word.filterMap fun
        | .char c _ => some c
        | _ => none
      modify fun r => { r with
        announced := r.announced ++ [{ number, mark, stripped, expanded := !quoted }] }
      return .mk kind descriptor []
    | _ => return .mk kind descriptor word

/-- Reads a simple command, or the definition of a function. -/
def readSimple (line : Nat) (assignments words : List Word) (redirections : List Redirection)
    (first : Bool) : Nat → Read Node
  | 0 => throw .tooDeep
  | depth + 1 => do
    Read.look { aliases := first }
    match ← readToken depth with
    | .word =>
      let word := (← get).word
      if first && (assignedName? word).isSome then
        readSimple line (assignments ++ [word]) words redirections first depth
      else readSimple line assignments (words ++ [word]) redirections false depth
    | .redirection =>
      let redirection ← readTarget depth
      readSimple line assignments words (redirections ++ [redirection]) first depth
    | .opening =>
      match words, assignments, redirections with
      | [word], [], [] =>
        readExpected .closing depth
        let name := (literal? word).getD []
        if !isName name || specialNames.any fun special => special.toList == name then
          Read.fail "Bad function name"
        Read.look { newlines := true, keywords := true, aliases := true }
        return .define name (← readCommand depth)
      | _, _, _ =>
        Read.pushBack
        return .simple line assignments words redirections
    | _ =>
      Read.pushBack
      return .simple line assignments words redirections

/-- Reads the documents that were announced. -/
def readDocuments : Nat → Read Unit
  | 0 => throw .tooDeep
  | depth + 1 => do
    match (← get).announced with
    | [] => return ()
    | document :: rest =>
      modify fun r => { r with announced := rest }
      let mode := if document.expanded then Mode.double else .single
      let scan : Scan :=
        { level := { mode, doubled := document.expanded }, document := some document }
      let _ ← readWord scan true depth
      modify fun r => { r with documents := (document.number, r.word) :: r.documents }
      readDocuments depth

/-- Reads a token, looking for what is asked for. -/
def readToken : Nat → Read Token
  | 0 => throw .tooDeep
  | depth + 1 => do readTokenWith (← get).check depth

/-- Reads a token, looking for some things. -/
def readTokenWith (check : Check) : Nat → Read Token
  | 0 => throw .tooDeep
  | depth + 1 => do
    let token ← readAnyToken depth
    if token = .newline ∧ check.newlines then
      readDocuments depth
      readTokenWith check depth
    else
      let now := (← get).check
      let check := { check with
        newlines := check.newlines || now.newlines
        keywords := check.keywords || now.keywords
        aliases := check.aliases || now.aliases }
      Read.look {}
      let r ← get
      if token ≠ .word ∨ r.quoted then return token
      let text := literal? r.word
      match if check.keywords then text.bind Keyword.ofText? else none with
      | some keyword => Read.give (.keyword keyword)
      | none =>
        match if check.aliases then text else none with
        | none => return token
        | some name =>
          match r.aliases.lookup name with
          | none => return token
          | some value =>
            if r.entered.any (·.1 == name) then return token
            if !value.isEmpty then
              set { r with
                rest := value ++ r.rest
                left := r.left + value.length
                entered := (name, r.left) :: r.entered }
            readTokenWith check depth

/-- Reads a token, whatever it is. -/
def readAnyToken : Nat → Read Token
  | 0 => throw .tooDeep
  | depth + 1 => do
    if (← get).pushed then
      modify fun r => { r with pushed := false }
      return (← get).token
    let found ← Read.next
    match found with
    | none => Read.give .finish
    | some ' ' | some '\t' => readAnyToken depth
    | some '#' =>
      skipComment
      readAnyToken depth
    | some '\n' => Read.give .newline
    | some '&' => do if ← Read.take '&' then Read.give .and else Read.give .background
    | some '|' => do if ← Read.take '|' then Read.give .or else Read.give .pipe
    | some ';' => do if ← Read.take ';' then Read.give .endOfBranch else Read.give .semicolon
    | some '(' => Read.give .opening
    | some ')' => Read.give .closing
    | some _ =>
      Read.unread found
      readWord { level := { mode := .base } } false depth

/-- Reads the rest of a word, or of a document. -/
def readWord (scan : Scan) (atStart : Bool) : Nat → Read Token
  | 0 => throw .tooDeep
  | depth + 1 => do
    let level := scan.level
    let over' ← match scan.document with
      | some document =>
        if atStart then atDocumentStart document (level.mode ≠ .single) else pure false
      | none => pure false
    let found ← if over' then pure none
      else if level.mode = .single then Read.char else Read.next
    match found with
    | none => finishWord scan none
    | some '\n' =>
      if level.mode = .base ∧ level.expansions = 0 then finishWord scan found
      else readWord (scan.add (.char '\n' false)) true depth
    | some c =>
      let goOn (scan : Scan) : Read Token := readWord scan false depth
      match level.mode, c with
      | .single, '\'' => closeQuotes scan c depth
      | .single, c =>
        if isSpecial c || c == '\\' then goOn (scan.addSpecial c)
        else goOn (scan.add (.char c false))
      | .base, '\'' =>
        goOn { scan with level := { level with mode := .single } }.addMark
      | .base, '\x22' =>
        goOn { scan with level := { level with mode := .double, doubled := true } }.toggle
      | .double, '\x22' => closeQuotes scan c depth
      | _, '\\' => readEscaped scan depth
      | _, '$' => readExpansion scan depth
      | _, '\x60' =>
        if (← get).check.mark then goOn (scan.add (.char c false))
        else readOldCommand scan depth
      | .arithmetic, '(' =>
        let level := { level with parentheses := level.parentheses + 1 }
        goOn (Scan.add { scan with level } (.char c false))
      | .arithmetic, ')' =>
        if 0 < level.parentheses then
          let level := { level with parentheses := level.parentheses - 1 }
          goOn (Scan.add { scan with level } (.char c false))
        else if ← Read.take ')' then goOn scan.close.rise
        else goOn (scan.add (.char c false))
      | _, '\x7d' =>
        if !level.innerDoubled && 0 < level.expansions then
          let level := { level with expansions := level.expansions - 1 }
          if level.expansions = 0 ∧ level.ofExpansion then
            goOn { scan with level }.close.rise
          else
            goOn { scan with level := { level with
              doubledExpansions := level.doubledExpansions - 1 } }.close
        else goOn (scan.add (.char c false))
      | .base, c =>
        if isDelimiter c && level.expansions = 0 then finishWord scan found
        else goOn (scan.add (.char c false))
      | .double, c =>
        if isSpecial c then goOn (scan.addSpecial c) else goOn (scan.add (.char c false))
      | .arithmetic, c => goOn (scan.add (.char c false))

/-- Closes quotes, or keeps the character where quotes do not count. -/
def closeQuotes (scan : Scan) (c : Char) : Nat → Read Token
  | 0 => throw .tooDeep
  | depth + 1 =>
    let level := scan.level
    if scan.document.isSome ∧ level.expansions = 0 then
      readWord (scan.add (.char c false)) false depth
    else
      let level := if level.doubledExpansions = 0 then
        { level with mode := .base, doubled := false } else level
      let scan := { scan with level, quoted := true }
      readWord (if c == '\x22' then scan.toggle else scan.addMark) false depth

/-- Reads what is behind a backslash. -/
def readEscaped (scan : Scan) : Nat → Read Token
  | 0 => throw .tooDeep
  | depth + 1 => do
    match ← Read.char with
    | none => readWord (scan.add (.char '\\' true)) false depth
    | some c =>
      let level := scan.level
      let keeps := level.doubled && c != '\\' && c != '\x60' && c != '$' &&
        (c != '\x22' || (scan.document.isSome && level.expansions = 0)) &&
        (c != '\x7d' || level.expansions = 0)
      let scan := if keeps then scan.add (.char '\\' true) else scan
      readWord (Scan.add { scan with quoted := true } (.char c true)) false depth

/-- Reads what is behind a dollar sign. -/
def readExpansion (scan : Scan) : Nat → Read Token
  | 0 => throw .tooDeep
  | depth + 1 => do
    let plainDollar (found : Option Char) : Read Token := do
      Read.unread found
      readWord (scan.add (.char '$' false)) false depth
    let found ← Read.next
    if (← get).check.mark then plainDollar found
    else match found with
      | some '(' =>
        if ← Read.take '(' then
          readWord ((scan.push .arithmetic).deepen { mode := .arithmetic, doubled := true })
            false depth
        else readNewCommand scan depth
      | some '\x7b' =>
        let limit := (← get).left
        readWord (← readBraced scan limit) false depth
      | some c =>
        if isNameStart c || isSpecialParameter c then
          let name ← readName (← get).left false c
          readWord (scan.add (.parameter name .plain false [])) false depth
        else plainDollar found
      | none => plainDollar none

/-- Reads a command substitution behind its opening parenthesis. -/
def readNewCommand (scan : Scan) : Nat → Read Token
  | 0 => throw .tooDeep
  | depth + 1 => do
    let { check, announced, .. } ← get
    modify fun r => { r with announced := [] }
    let body ← readList false true none true depth
    readExpected .closing depth
    modify fun r => { r with announced, check }
    readWord (scan.add (.command body)) false depth

/-- Reads a command substitution behind its opening backquote. -/
def readOldCommand (scan : Scan) : Nat → Read Token
  | 0 => throw .tooDeep
  | depth + 1 => do
    let text ← readBackquoted scan.level.doubled ((← get).left + 1) []
    let before ← get
    set { before with
      rest := text, left := text.length, line := 1, pushed := false, announced := [], entered := [] }
    let body ← readList false true none true depth
    modify fun r => { before with
      documents := r.documents, nextDocument := r.nextDocument, pushed := false }
    readWord (scan.add (.command body)) false depth

/-- Ends a word in front of a character, or finds that a redirection starts there. -/
def finishWord (scan : Scan) (found : Option Char) : Read Token := do
  let level := scan.level
  if level.mode = .arithmetic then Read.fail "Missing '))'"
  if level.mode ≠ .base ∧ scan.document.isNone then Read.fail "Unterminated quoted string"
  if level.expansions ≠ 0 then Read.fail "Missing '\x7d'"
  let word := scan.parts.reverse
  let descriptor : Option (Option Nat) := match word with
    | [] => some none
    | [.char d false] => if d.isDigit then some (some (d.toNat - 48)) else none
    | _ => none
  match scan.document, scan.quoted, descriptor, found with
  | none, false, some descriptor, some '<' => readRedirection descriptor '<'
  | none, false, some descriptor, some '>' => readRedirection descriptor '>'
  | _, _, _, _ =>
    Read.unread found
    modify fun r => { r with word, quoted := scan.quoted }
    Read.give .word

end

/-- How deep reading may go for a text. -/
def readingDepth (r : Reader) : Nat := 100000 + 16 * r.left

/-- Reads the commands on the next lines: none at the end, else what there is, with the state
behind them. -/
def readCommands (r : Reader) : Except Fault (Option (Option Node) × Reader) := do
  let (node, after) ←
    (readList true false none true (readingDepth r)).run { r with pushed := false, announced := [] }
  if node.isNone && after.token = .finish && after.pushed then return (none, after)
  else return (some node, after)

end Judge.Host.Shell
