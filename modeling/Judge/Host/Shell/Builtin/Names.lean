import Judge.Host.Condition
import Judge.Host.Shell.Lookup
import Judge.Host.Shell.Options
import Judge.Host.Printing
import Judge.Host.Shell.Process

/-!
Commands of the shell on names, directories and texts: aliases, where commands are, moving between
directories, writing, and conditions.
-/

namespace Judge.Host.Shell.Builtin

/-- Shows an alias. -/
def showAlias (name value : Raw) : Sh Unit :=
  Sh.out (name ++ '=' :: Sh.quote value ++ ['\n'])

/-- Makes or shows aliases. -/
def aliasEach (status : Nat) : List Raw → Sh Nat
  | [] => return status
  | text :: rest => do
    let s ← get
    match Text.cut '=' (text.drop 1) with
    | some (name, value) =>
      let name := text.take 1 ++ name
      let aliases := if s.aliases.any (·.1 == name) then
          s.aliases.map fun entry => if entry.1 == name then (name, value) else entry
        else s.aliases ++ [(name, value)]
      set { s with aliases }
      aliasEach status rest
    | none =>
      match s.aliases.lookup text with
      | some value =>
        showAlias text value
        aliasEach status rest
      | none =>
        Sh.say 2 ("alias: ".toList ++ text ++ " not found\n".toList)
        aliasEach 1 rest

/-- Makes aliases, or shows them. -/
def setAliases (arguments : List Raw) : Sh Nat := do
  if arguments.isEmpty then
    let found := (← get).aliases.mergeSort fun a b =>
      Session.tableIndex a.1 ≤ Session.tableIndex b.1
    Sh.forEach (fun (name, value) => showAlias name value) found
    return 0
  else aliasEach 0 arguments

/-- Takes aliases away, one after the other. -/
def unaliasEach (status : Nat) : List Raw → Sh Nat
  | [] => return status
  | name :: rest => do
    let s ← get
    if s.aliases.any (·.1 == name) then
      set { s with aliases := s.aliases.filter (·.1 != name) }
      unaliasEach status rest
    else
      Sh.say 2 ("unalias: ".toList ++ name ++ " not found\n".toList)
      unaliasEach 1 rest

/-- Takes aliases away. -/
def unalias (arguments : List Raw) : Sh Nat := do
  let (options, operands) ← Sh.options "a" "" arguments
  if options.isEmpty then unaliasEach 0 operands
  else
    modify fun s => { s with aliases := [] }
    return 0

/-- Where a name comes in the table of programs. -/
def programIndex (name : Raw) : Nat :=
  (name.foldl (fun sum c => sum + c.toNat) ((name.head?.elim 0 Char.toNat) * 16)) % 31

/-- Looks for programs, one after the other. -/
def hashEach (status : Nat) : List Raw → Sh Nat
  | [] => return status
  | name :: rest => do
    modify fun s => { s with found := s.found.filter (·.1 != name) }
    match ← Lookup.find true none name with
    | .unknown cause =>
      Sh.complain (name ++ ": ".toList ++ Lookup.wordingOf cause)
      hashEach 1 rest
    | _ => hashEach status rest

/-- Shows where programs were found, or looks for some. -/
def hash (arguments : List Raw) : Sh Nat := do
  let (options, operands) ← Sh.options "r" "" arguments
  if !options.isEmpty then
    modify fun s => { s with found := [] }
    return 0
  else if operands.isEmpty then
    let s ← get
    let found := s.found.mergeSort fun a b => programIndex a.1 ≤ programIndex b.1
    Sh.forEach (fun (name, index) =>
      let paths := pathsIn (Lookup.searchPath s) name
      Sh.out (paths[index]?.getD name ++ ['\n'])) found
    return 0
  else hashEach 0 operands

/-- Describes commands, one after the other. -/
def typeEach (status : Nat) : List Raw → Sh Nat
  | [] => return status
  | name :: rest => do
    let found ← Lookup.describe none true name
    typeEach (if found = 0 then status else found) rest

/-- Describes a command without running it. -/
def command (arguments : List Raw) : Sh Nat := do
  let (options, operands) ← Sh.options "pvV" "" arguments
  let letters := options.map (·.letter)
  let path := if letters.contains 'p' then some Lookup.standardPath else none
  match operands with
  | name :: _ =>
    if letters.contains 'V' then Lookup.describe path true name
    else if letters.contains 'v' then Lookup.describe path false name
    else return 0
  | [] => return 0

/-- Goes along the names of a path. -/
def alongNames : List Raw → List Raw → List Raw
  | here, [] => here
  | here, name :: rest =>
    if name.isEmpty || name == ['.'] then alongNames here rest
    else if name == ['.', '.'] then alongNames here.dropLast rest
    else alongNames (here ++ [name]) rest

/-- Where a path leads to from a directory, going by the names only; a path that starts with two
slashes keeps them. -/
def alongPath (directory path : Raw) : Raw :=
  let names (text : Raw) : List Raw := Text.splitAt '/' text
  let start : Raw := match path with
    | '/' :: '/' :: '/' :: _ => ['/']
    | '/' :: '/' :: _ => ['/', '/']
    | '/' :: _ => ['/']
    | _ => if ['/', '/'].isPrefixOf directory then ['/', '/'] else ['/']
  let here := if path.head? == some '/' then [] else alongNames [] (names directory)
  start ++ ((alongNames here (names path)).intersperse ['/']).flatten

/-- Where the shell is, without links. -/
def findPlace : Sh Raw := do
  match ← Sh.ask .directory with
  | .ok path => return path
  | .error cause =>
    Sh.complain ("getcwd() failed: ".toList ++ wording cause)
    return []

/-- Takes note of a new directory. -/
def setDirectory (path : Option Raw) : Sh Unit := do
  let s ← get
  Sh.assign "OLDPWD".toList s.directory true
  match path with
  | some directory => modify fun s => { s with directory, place := none }
  | none =>
    let directory ← findPlace
    modify fun s => { s with directory, place := some directory }
  Sh.assign "PWD".toList (← get).directory true

/-- Goes to a directory. The result tells whether that could be done. -/
def enter (physical : Bool) (path : Raw) : Sh Bool := do
  let s ← get
  let target := if physical || (path.head? != some '/' && s.directory.isEmpty) then none
    else some (alongPath s.directory path)
  match ← Sh.ask (.enter (target.getD path)) with
  | .error _ => return false
  | .ok _ =>
    setDirectory target
    return true

/-- Whether the physical way was asked for: of the letters the last one counts. -/
def isPhysical (options : List GivenOption) : Bool :=
  (options.getLast?.map (·.letter)) == some 'P'

/-- Whether a path is looked for in no other directory than the current one. -/
def isDirect (path : Raw) : Bool :=
  match path with
  | '/' :: _ | ['.'] | '.' :: '/' :: _ | ['.', '.'] | '.' :: '.' :: '/' :: _ => true
  | _ => false

/-- Looks for a directory among paths, each with whether it is to be shown. -/
def findDirectory : List (Raw × Bool) → Sh (Option (Raw × Bool))
  | [] => return none
  | (path, shown) :: rest => do
    match ← Sh.ask (.look path true) with
    | .ok status =>
      if status.kind = .directory then return some (path, shown) else findDirectory rest
    | .error _ => findDirectory rest

/-- Goes to a directory. -/
def cd (arguments : List Raw) : Sh Nat := do
  let (options, operands) ← Sh.options "LP" "" arguments
  let s ← get
  let back := operands.head? == some ['-']
  let target := match operands with
    | [] => (s.value? "HOME".toList).getD []
    | path :: _ => if back then (s.value? "OLDPWD".toList).getD [] else path
  let (path, shown) ← if isDirect target then pure (target, back)
    else do
      let target := if target.isEmpty then ['.'] else target
      let places := Text.splitAt ':' ((s.value? "CDPATH".toList).getD [])
      let paths := places.map fun place => (inDirectory place target, !place.isEmpty)
      pure (((← findDirectory paths).map fun (path, shown) => (path, back || shown)).getD
        (target, back))
  if ← enter (isPhysical options) path then
    if shown then Sh.out ((← get).directory ++ ['\n'])
    return 0
  else Sh.fail ("can't cd to ".toList ++ target)

/-- Shows where the shell is. -/
def pwd (arguments : List Raw) : Sh Nat := do
  let (options, _) ← Sh.options "LP" "" arguments
  let s ← get
  if isPhysical options then
    let place ← match s.place with
      | some place => pure place
      | none => findPlace
    modify fun s => { s with place := some place }
    Sh.out (place ++ ['\n'])
  else Sh.out (s.directory ++ ['\n'])
  return 0

/-- Writes arguments with a format. -/
def printf (arguments : List Raw) : Sh Nat := do
  let (_, operands) ← Sh.options "" "" arguments
  match operands with
  | [] => Sh.fail "usage: printf format [arg ...]".toList
  | format :: values =>
    let printed := Printing.printf format values
    Sh.out printed.output
    Sh.forEach (fun complaint => Sh.complain complaint.message) printed.complaints
    match printed.failure with
    | some fault => Sh.fail fault.message
    | none => return if printed.complaints.isEmpty then 0 else 1

/-- Works out a condition. -/
def test (words : List Raw) : Sh Nat := do
  match ← Sh.act (Condition.evaluate false 4 words).run with
  | .ok holds => return if holds then 0 else 1
  | .error fault => Sh.fail fault.message

/-- Works out a condition up to its closing bracket. -/
def bracket (words : List Raw) : Sh Nat := do
  if words.getLast? == some [']'] then test words.dropLast
  else Sh.fail "missing ]".toList

end Judge.Host.Shell.Builtin
