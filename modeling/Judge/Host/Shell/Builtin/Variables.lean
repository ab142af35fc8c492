import Judge.Host.Shell.Options
import Judge.Host.Pattern
import Judge.Host.Shell.Process

/-!
Commands of the shell on variables, arguments and options.
-/

namespace Judge.Host.Shell.Builtin

/-- The name and the value of an operand such as `name=value`. -/
def splitAssignment (text : Raw) : Raw × Option Raw :=
  match Text.cut '=' text with
  | some (name, value) => (name, some value)
  | none => (text, none)

/-- Lists variables that are chosen, each behind some words. -/
def listVariables (words : String) (chosen : Variable → Bool) : Sh Unit := do
  let s ← get
  let found := (s.values.filter fun (_, v) => chosen v).mergeSort
    fun a b => !decide (b.1 < a.1)
  Sh.forEach (fun (name, v) =>
    let value : Raw := match v.value with
      | some value => '=' :: Sh.quote value
      | none => []
    let gap : Raw := if words.isEmpty then [] else [' ']
    Sh.out (words.toList ++ gap ++ name ++ value ++ ['\n'])) found

/-- Marks variables, or lists those that are marked. -/
def mark (word : String) (isMarked : Variable → Bool) (mark : Variable → Variable)
    (arguments : List Raw) : Sh Nat := do
  let (options, operands) ← Sh.options "p" "" arguments
  if options.isEmpty && !operands.isEmpty then
    Sh.forEach (fun operand => do
      match splitAssignment operand with
      | (name, some value) =>
        Sh.assign name value false
        modify fun s => s.alter name mark
      | (name, none) =>
        if !isName name then Sh.badName name
        modify fun s => s.alter name mark) operands
  else listVariables word isMarked
  return 0

/-- Makes variables local to the function that runs; a hyphen means the options. -/
def local_ (arguments : List Raw) : Sh Nat := do
  let (_, operands) ← Sh.options "" "" arguments
  if (← get).scopes.isEmpty then Sh.fail "not in a function".toList
  Sh.forEach (fun operand => do
    if operand == ['-'] then
      modify fun s => match s.scopes with
        | [] => s
        | scope :: rest => { s with scopes := (.options s.options :: scope) :: rest }
    else
      match splitAssignment operand with
      | (name, value) =>
        if !isName name then Sh.badName name
        Sh.makeLocal name
        match value with
        | some value => Sh.assign name value false
        | none => modify fun s => s.alter name id) operands
  return 0

/-- Takes variables or functions away. -/
def unset (arguments : List Raw) : Sh Nat := do
  let (options, operands) ← Sh.options "vf" "" arguments
  let functions := (options.getLast?.map (·.letter)) == some 'f'
  Sh.forEach (fun name =>
    if functions then modify fun s => { s with functions := s.functions.filter (·.1 != name) }
    else Sh.unassign name) operands
  return 0

/-- Drops arguments in front. -/
def shift (arguments : List Raw) : Sh Nat := do
  let n ← match arguments with
    | [] => pure 1
    | text :: _ => Sh.number text
  let s ← get
  if s.arguments.length < n then Sh.fail "can't shift that many".toList
  set { s with arguments := s.arguments.drop n, optionIndex := 1, optionOffset := none }
  return 0

/-- The options by name, in the order in which they are listed. -/
def optionNames : List (String × Char) :=
  [("errexit", 'e'), ("noglob", 'f'), ("ignoreeof", 'I'), ("interactive", 'i'), ("monitor", 'm'),
    ("noexec", 'n'), ("stdin", 's'), ("xtrace", 'x'), ("verbose", 'v'), ("vi", 'V'),
    ("emacs", 'E'), ("noclobber", 'C'), ("allexport", 'a'), ("notify", 'b'), ("nounset", 'u'),
    ("privileged", 'p'), ("nolog", '\x01'), ("debug", '\x02')]

/-- Sets an option or takes it back. Jobs cannot be controlled without a terminal. -/
def putOption (on : Bool) (letter : Char) : Sh Unit := do
  if on && letter == 'm' then Sh.complain "can't access tty; job control turned off".toList
  else modify fun s =>
    let others := s.options.filter (· != letter)
    { s with options := if on then letter :: others else others }

/-- Sets the option with a letter or takes it back. -/
def setOption (on : Bool) (letter : Char) : Sh Unit := do
  if !(optionNames.any fun o => o.2 == letter && '\x02' < letter) then
    Sh.fail ("Illegal option -".toList ++ [letter])
  putOption on letter

/-- Lists the options. -/
def listOptions (on : Bool) : Sh Unit := do
  let s ← get
  if on then Sh.out "Current option settings\n".toList
  Sh.forEach (fun (name, letter) =>
    let isSet := s.hasOption letter
    let padded := name.toList ++ List.replicate (16 - name.length) ' '
    Sh.out (if on then padded ++ (if isSet then "on\n" else "off\n").toList
      else (if isSet then "set -o " else "set +o ").toList ++ name.toList ++ ['\n'])) optionNames

/-- Sets an option by its name, or lists all. -/
def setNamedOption (on : Bool) (name : Option Raw) : Sh Unit := do
  match name with
  | none => listOptions on
  | some name =>
    match optionNames.find? fun o => o.1.toList == name with
    | none => Sh.fail ("Illegal option -o ".toList ++ name)
    | some (_, letter) => putOption on letter

/-- Sets the options that the letters of an argument mean. The result is what follows. -/
def setLetters (on : Bool) : Raw → List Raw → Sh (List Raw)
  | [], rest => return rest
  | 'o' :: letters, rest => do
    setNamedOption on rest.head?
    setLetters on letters (rest.drop 1)
  | letter :: letters, rest => do
    setOption on letter
    setLetters on letters rest

/-- Sets options in front of operands, and tells what the operands are; none means that there are
none at all. -/
def setOptions : Nat → List Raw → Sh (Option (List Raw))
  | 0, _ => return none
  | _, [] => return none
  | steps + 1, argument :: rest => do
    match argument with
    | ['-'] =>
      modify fun s => { s with options := s.options.filter fun c => c != 'x' && c != 'v' }
      return if rest.isEmpty then none else some rest
    | ['-', '-'] => return some rest
    | '-' :: letters => setOptions steps (← setLetters true letters rest)
    | '+' :: letters => setOptions steps (← setLetters false letters rest)
    | _ => return some (argument :: rest)

/-- Sets options and arguments, or lists the variables. -/
def set_ (arguments : List Raw) : Sh Nat := do
  if arguments.isEmpty then listVariables "" fun v => v.value.isSome
  else
    match ← setOptions (arguments.length + 1) arguments with
    | none => pure ()
    | some arguments =>
      modify fun s => { s with arguments, optionIndex := 1, optionOffset := none }
  return 0

/-- The state of reading a line: the characters so far in reverse, each with whether it was
escaped. -/
def readLine (keepBackslashes escaped : Bool) : Nat → Pattern → Sh (Pattern × Bool)
  | 0, found => return (found.reverse, false)
  | steps + 1, found => do
    match ← Sh.ask (.read 0 1) with
    | .error .interrupted =>
      Sh.notice
      if (← get).pending.isEmpty then readLine keepBackslashes escaped steps found
      else return (found.reverse, false)
    | .error _ => return (found.reverse, false)
    | .ok bytes =>
      match Raw.ofBytes bytes with
      | [] => return (found.reverse, false)
      | c :: _ =>
        if c == '\x00' then readLine keepBackslashes escaped steps found
        else if escaped then
          readLine keepBackslashes false steps (if c == '\n' then found else (c, true) :: found)
        else if c == '\\' && !keepBackslashes then readLine keepBackslashes true steps found
        else if c == '\n' then return (found.reverse, true)
        else readLine keepBackslashes false steps ((c, false) :: found)

/-- Separators of which several count as one. -/
def isGap (separators : Raw) (c : Char × Bool) : Bool :=
  !c.2 && separators.contains c.1 && (c.1 == ' ' || c.1 == '\t' || c.1 == '\n')

/-- Separators each of which ends a field. -/
def isBound (separators : Raw) (c : Char × Bool) : Bool :=
  !c.2 && separators.contains c.1 && !isGap separators c

/-- What follows the separators behind a field. -/
def dropBound (separators : Raw) (line : Pattern) : Pattern :=
  let rest := line.dropWhile (isGap separators)
  match rest with
  | c :: more => if isBound separators c then more.dropWhile (isGap separators) else rest
  | [] => []

/-- The state of finding the end of the last field. -/
structure LastField where
  /-- Whether there was a separator. -/
  isBehind : Bool := false
  /-- Where the separators at the end start. -/
  cut : Option Nat := none
  /-- Whether a bound would belong to the gap before it. -/
  inGap : Bool := false
  position : Nat := 0

/-- Goes on with a character. What is escaped neither starts nor ends separators. -/
def LastField.step (separators : Raw) (f : LastField) (c : Char × Bool) : LastField :=
  let next := { f with position := f.position + 1 }
  let gap := isGap separators c
  let bound := isBound separators c
  if c.2 then { next with inGap := false }
  else if !f.isBehind then
    if gap || bound then { next with isBehind := true, cut := some f.position, inGap := gap }
    else next
  else if gap then { next with cut := some (f.cut.getD f.position) }
  else { next with cut := if bound && f.inGap then f.cut else none, inGap := false }

/-- What the last field is: what is left without the separators at its end, and without its bound
if it is the only field. -/
def lastField (separators : Raw) (line : Pattern) : Pattern :=
  match (line.foldl (LastField.step separators) {}).cut with
  | some cut => line.take cut
  | none => line

/-- The fields of a line, one for each of so many variables; those that are missing are empty. -/
def fieldsOf (separators : Raw) : Nat → Pattern → List Raw
  | 0, _ => []
  | 1, line => [Pattern.text (lastField separators line)]
  | n + 2, line =>
    let separates (c : Char × Bool) : Bool := isGap separators c || isBound separators c
    let field := line.takeWhile (!separates ·)
    Pattern.text field :: fieldsOf separators (n + 1) (dropBound separators (line.drop field.length))

/-- Reads a line into variables. -/
def read (arguments : List Raw) : Sh Nat := do
  let (options, names) ← Sh.options "r" "p" arguments
  if names.isEmpty then Sh.fail "arg count".toList
  let (line, complete) ← readLine (options.any (·.letter == 'r')) false Sh.tries []
  let separators := (← get).separators
  let fields := fieldsOf separators names.length (line.dropWhile (isGap separators))
  Sh.forEach (fun (name, value) => Sh.assign name value false) (names.zip fields)
  return if complete then 0 else 1

/-- Sets a variable without the effects of that. -/
def setQuietly (name value : Raw) : Sh Unit :=
  Sh.alterVariable name fun v => { v with value := some value }

/-- What looking at the options of arguments gives: the option, whether there is none any more, the
next argument and how far the current one has been gone through. -/
structure Looked where
  option : Char
  isOver : Bool
  index : Nat
  offset : Option Nat

/-- Looks at the option with a letter, behind which there is more of its argument. -/
def lookAtOption (accepted : Raw) (arguments : List Raw) (index : Nat) (c : Char) (more : Raw) :
    Sh Looked := do
  let silent := accepted.head? == some ':'
  let current := arguments[index - 2]?.getD []
  let offset := current.length - more.length
  let found (option : Char) : Looked := ⟨option, false, index, some offset⟩
  let complain (message : Raw) (reported : Char) : Sh Looked := do
    if silent then
      Sh.assign "OPTARG".toList [c] false
      return found reported
    else
      Sh.say 2 message
      Sh.unassign "OPTARG".toList
      return found '?'
  match if c == ':' then [] else accepted.dropWhile (· != c) with
  | [] => complain ("Illegal option -".toList ++ [c, '\n']) '?'
  | _ :: ':' :: _ =>
    if !more.isEmpty then
      Sh.assign "OPTARG".toList more false
      return ⟨c, false, index, none⟩
    else
      match arguments[index - 1]? with
      | none => complain ("No arg for -".toList ++ [c] ++ " option\n".toList) ':'
      | some value =>
        Sh.assign "OPTARG".toList value false
        return ⟨c, false, index + 1, none⟩
  | _ =>
    Sh.assign "OPTARG".toList [] false
    return found c

/-- Looks at the next option of arguments. -/
def lookAtNext (accepted : Raw) (arguments : List Raw) (index : Nat) (offset : Option Nat) :
    Sh Looked := do
  let rest := match offset with
    | some n => if index ≤ 1 then [] else (arguments[index - 2]?.getD []).drop n
    | none => []
  match rest with
  | c :: more => lookAtOption accepted arguments index c more
  | [] =>
    match arguments[index - 1]? with
    | some ['-', '-'] => return ⟨'?', true, index + 1, none⟩
    | some ('-' :: c :: more) => lookAtOption accepted arguments (index + 1) c more
    | _ => return ⟨'?', true, index, none⟩

/-- Gives one option after the other. -/
def getopts (arguments : List Raw) : Sh Nat := do
  match arguments with
  | accepted :: name :: given =>
    let s ← get
    let arguments := if given.isEmpty then s.arguments else given
    let (index, offset) := if arguments.length + 1 < s.optionIndex then (1, none)
      else (s.optionIndex, s.optionOffset)
    let looked ← lookAtNext accepted arguments index offset
    setQuietly "OPTIND".toList (Sh.showNat looked.index)
    Sh.assign name [looked.option] false
    modify fun s => { s with optionIndex := looked.index, optionOffset := looked.offset }
    return if looked.isOver then 1 else 0
  | _ => Sh.fail "Usage: getopts optstring var [arg...]".toList

end Judge.Host.Shell.Builtin
