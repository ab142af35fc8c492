import Judge.Host.Permission
import Judge.Host.Utility.Reading

/-!
Utilities that list, make, copy, move and remove files.
-/

namespace Judge.Host.Utility

/-- How deep directories may lie in each other. -/
def depthLimit : Nat := 1000

/-- What is known of the file at a path. -/
def look (path : Raw) (follow : Bool) : Act (Except IoError FileStatus) := ask (.look path follow)

/-- Whether there is a directory at a path. -/
def isDirectory (path : Raw) : Act Bool := do
  match ← look path true with
  | .ok status => return status.kind = .directory
  | .error _ => return false

/-- The path of a name in a directory. -/
def inside (directory name : Raw) : Raw :=
  if directory.getLast? == some '/' then directory ++ name else directory ++ '/' :: name

/-- A path without the slashes behind it. -/
def withoutSlashes (path : Raw) : Raw :=
  match path.reverse.dropWhile (· == '/') with
  | [] => path.take 1
  | reversed => reversed.reverse

/-- The last name of a path. -/
def lastName (path : Raw) : Raw :=
  let path := withoutSlashes path
  if path == ['/'] then path else (path.reverse.takeWhile (· != '/')).reverse

/-- The path of the directory that a path leads through last. -/
def directoryOf (path : Raw) : Raw :=
  let front := (withoutSlashes path).reverse.dropWhile (· != '/')
  match front, front.dropWhile (· == '/') with
  | [], _ => ['.']
  | _, [] => ['/']
  | _, reversed => reversed.reverse

/-- Changes files. -/
def change (action : FileAction) : Act (Except IoError Unit) := ask (.change action)

/-- The names in a directory in their order. -/
def namesIn (path : Raw) : Act (Except IoError (List Raw)) := do
  match ← ask (.names path) with
  | .ok names => return .ok (names.mergeSort fun a b => !decide (b < a))
  | .error cause => return .error cause

/-- The permissions of a file in letters, with its kind in front. -/
def modeLetters (status : FileStatus) : Raw :=
  let kind := match status.kind with
    | .directory => 'd'
    | .link => 'l'
    | .pipe => 'p'
    | .device => 'c'
    | .regular => '-'
  let group (rights : Nat) : Raw :=
    [if 4 ≤ rights % 8 then 'r' else '-', if 2 ≤ rights % 4 then 'w' else '-',
      if rights % 2 = 1 then 'x' else '-']
  kind :: group (status.mode / 64) ++ group (status.mode / 8) ++ group status.mode

/-- The options of `ls`. -/
def lsOptions : List Known :=
  [⟨'a', "all", false⟩, ⟨'A', "almost-all", false⟩, ⟨'d', "directory", false⟩,
    ⟨'l', "", false⟩, ⟨'1', "", false⟩, ⟨'R', "recursive", false⟩, ⟨'r', "reverse", false⟩,
    ⟨'F', "classify", false⟩, ⟨'p', "", false⟩, ⟨'m', "", false⟩, ⟨'Q', "quote-name", false⟩,
    ⟨'t', "", false⟩, ⟨'S', "", false⟩, ⟨'h', "human-readable", false⟩, ⟨'n', "", false⟩,
    ⟨'C', "", false⟩, ⟨'x', "", false⟩, ⟨'U', "", false⟩, ⟨'i', "inode", false⟩,
    ⟨'s', "size", false⟩, ⟨'g', "", false⟩, ⟨'o', "", false⟩, ⟨'L', "dereference", false⟩]

/-- An entry of a listing. -/
structure ListedFile where
  name : Raw
  path : Raw
  status : FileStatus

/-- An entry as it is shown. -/
def ListedFile.render (options : List Given) (file : ListedFile) : Raw :=
  let mark : Raw := match file.status.kind with
    | .directory => if has options 'F' || has options 'p' then ['/'] else []
    | .link => if has options 'F' then ['@'] else []
    | .regular => if has options 'F' && file.status.mode &&& 0o111 != 0 then ['*'] else []
    | .pipe => if has options 'F' then ['|'] else []
    | .device => []
  let name := if has options 'Q' then '\x22' :: file.name ++ ['\x22'] else file.name
  let front := if has options 'l' || has options 'n' || has options 'g' || has options 'o' then
      modeLetters file.status ++ " 1 root root ".toList ++ showNat file.status.size ++
        " Jan  1 00:00 ".toList
    else []
  front ++ name ++ mark

/-- A listing of entries. -/
def renderListing (options : List Given) (files : List ListedFile) : Raw :=
  let files := if has options 'S' then
      files.mergeSort fun a b => b.status.size ≤ a.status.size
    else files
  let files := if has options 'r' then files.reverse else files
  let shown := files.map (·.render options)
  if has options 'm' then
    if shown.isEmpty then [] else (shown.intersperse [',', ' ']).flatten ++ ['\n']
  else if has options 'C' || has options 'x' then
    if shown.isEmpty then [] else (shown.intersperse [' ', ' ']).flatten ++ ['\n']
  else joinLines shown

/-- Whether an entry of a directory is shown. -/
def isListed (options : List Given) (name : Raw) : Bool :=
  has options 'a' || has options 'A' || name.head? != some '.'

/-- What is known of the entries of a directory. -/
def statusesIn (path : Raw) : List Raw → Act (List ListedFile)
  | [] => return []
  | name :: rest => do
    let full := inside path name
    match ← look full false with
    | .ok status => return { name, path := full, status } :: (← statusesIn path rest)
    | .error _ => statusesIn path rest

/-- Lists a directory, and those in it if that is asked for. -/
def listDirectory (name : Raw) (options : List Given) (path : Raw) :
    Nat → Bool → Bool → Act (Nat × Bool)
  | 0, _, later => return (0, later)
  | depth + 1, titled, later => do
    match ← namesIn path with
    | .error cause =>
      complain name ("cannot open directory ".toList ++ quoted path ++ ": ".toList ++ wording cause)
      return (2, later)
    | .ok names =>
      let title := (if later then ['\n'] else []) ++ path ++ [':', '\n']
      if titled || has options 'R' then let _ ← put name title
      let names := (if has options 'a' then [['.'], ['.', '.']] else []) ++ names
      let files ← statusesIn path (names.filter (isListed options))
      if has options 'l' then let _ ← put name "total 0\n".toList
      let _ ← put name (renderListing options files)
      if !has options 'R' then return (0, true)
      else
        let inner := files.filter fun f =>
          f.status.kind = .directory && f.name != ['.'] && f.name != ['.', '.']
        inner.foldlM (fun (status, later) file => do
          let (found, later) ← listDirectory name options file.path depth true later
          return (Nat.max status found, later)) (0, true)

/-- Lists files and the entries of directories. -/
def ls : List Raw → Program :=
  withOptions lsOptions false 2 fun name options operands => do
    let paths := if operands.isEmpty then [['.']] else operands
    let sorted := paths.mergeSort fun a b => !decide (b < a)
    let rec lookAll : List Raw → Act (Nat × List ListedFile)
      | [] => return (0, [])
      | path :: rest => do
        let follow := !(has options 'l' || has options 'd' || has options 'F')
        let found ← do
          match ← look path follow with
          | .ok status => pure (.ok status)
          | .error _ => look path false
        match found with
        | .ok status =>
          let (failure, more) ← lookAll rest
          return (failure, { name := path, path, status } :: more)
        | .error cause =>
          complain name ("cannot access ".toList ++ quoted path ++ ": ".toList ++ wording cause)
          let (_, more) ← lookAll rest
          return (2, more)
    let (status, found) ← lookAll paths
    let found := sorted.filterMap fun path => found.find? (·.path == path)
    let isFile (f : ListedFile) : Bool := f.status.kind != .directory || has options 'd'
    let (files, directories) := found.partition isFile
    let _ ← put name (renderListing options files)
    let directories := if has options 'r' then directories.reverse else directories
    let (failure, _) ← directories.foldlM (fun (status, later) file => do
      let (found, later) ← listDirectory name options file.path depthLimit
        (1 < paths.length) later
      return (Nat.max status found, later)) (0, !files.isEmpty)
    return Nat.max status failure

/-- Makes the directories that are missing on the way along names. -/
def makeAlong (name : Raw) (verbose : Bool) (mode : Nat) (here : Raw) : List Raw → Program
  | [] => return 0
  | piece :: rest => do
    let here := if here.isEmpty then piece else if here == ['/'] then '/' :: piece
      else here ++ '/' :: piece
    if piece.isEmpty then makeAlong name verbose mode (if here.isEmpty then ['/'] else here) rest
    else if ← isDirectory here then makeAlong name verbose mode here rest
    else match ← change (.makeDirectory here mode) with
      | .ok _ =>
        if verbose then
          let _ ← put name (name ++ ": created directory ".toList ++ quoted here ++ ['\n'])
        makeAlong name verbose mode here rest
      | .error cause =>
        let reason := if cause = .exists && !rest.isEmpty then .notDirectory else cause
        complain name ("cannot create directory ".toList ++ quoted here ++ ": ".toList ++
          wording reason)
        return 1

/-- Makes a directory, with those above it if that is asked for. -/
def makeOne (name : Raw) (options : List Given) (path : Raw) : Program := do
  let verbose := has options 'v'
  let fault (cause : IoError) : Program := do
    complain name ("cannot create directory ".toList ++ quoted path ++ ": ".toList ++ wording cause)
    return 1
  if has options 'p' then
    if path.isEmpty then fault .missing
    else
      makeAlong name verbose 0o777 (if path.head? == some '/' then ['/'] else [])
        ((Text.splitAt '/' path).filter (!·.isEmpty))
  else
    match ← change (.makeDirectory path 0o777) with
    | .error cause => fault cause
    | .ok _ =>
      if verbose then
        let _ ← put name (name ++ ": created directory ".toList ++ quoted path ++ ['\n'])
      return 0

/-- Makes directories. -/
def mkdir : List Raw → Program :=
  withOptions [⟨'m', "mode", true⟩, ⟨'p', "parents", false⟩, ⟨'v', "verbose", false⟩] false 1
    fun name options operands => do
      if operands.isEmpty then misuse name "missing operand".toList 1
      else match (valueOf? options 'm').map fun text => (text, Permission.octal? text) with
        | some (text, none) =>
          complain name ("invalid mode ".toList ++ quoted text)
          return 1
        | some (_, some mode) =>
          worst (fun path => do
            let made ← makeOne name options path
            if made = 0 then
              let _ ← change (.setMode path mode)
            return made) operands
        | none => worst (makeOne name options) operands

/-- Removes an empty directory, and those above it that are empty then if that is asked for. -/
def removeUpwards (name : Raw) (options : List Given) : Nat → Raw → Program
  | 0, _ => return 0
  | steps + 1, path => do
    if has options 'v' then
      let _ ← put name (name ++ ": removing directory, ".toList ++ quoted path ++ ['\n'])
    match ← change (.removeDirectory path) with
    | .error cause =>
      complain name ("failed to remove ".toList ++ quoted path ++ ": ".toList ++ wording cause)
      return 1
    | .ok _ =>
      let above := directoryOf path
      if has options 'p' && above != ['.'] && above != ['/'] then
        removeUpwards name options steps above
      else return 0

/-- Removes empty directories. -/
def rmdir : List Raw → Program :=
  withOptions [⟨'p', "parents", false⟩, ⟨'v', "verbose", false⟩] false 1
    fun name options operands =>
      if operands.isEmpty then misuse name "missing operand".toList 1
      else worst (removeUpwards name options depthLimit) operands

/-- Complains that something cannot be removed. -/
def cannotRemove (name path : Raw) (cause : IoError) : Program := do
  complain name ("cannot remove ".toList ++ quoted path ++ ": ".toList ++ wording cause)
  return 1

/-- Removes what is at a path, with what is below it if that is asked for. -/
def removeOne (name : Raw) (options : List Given) : Nat → Raw → Program
  | 0, _ => return 1
  | depth + 1, path => do
    let isDeep := has options 'r' || has options 'R'
    let note (kind : String) : Act Unit := do
      if has options 'v' then
        let _ ← put name (kind.toList ++ quoted path ++ ['\n'])
    match ← look path false with
    | .error cause =>
      if has options 'f' && (cause = .missing || cause = .notDirectory) then return 0
      else cannotRemove name path cause
    | .ok status =>
      if status.kind ≠ .directory then
        match ← change (.remove path) with
        | .ok _ =>
          note "removed "
          return 0
        | .error cause => cannotRemove name path cause
      else if !isDeep && !has options 'd' then cannotRemove name path .isDirectory
      else if isDeep && (lastName path == ['.'] || lastName path == ['.', '.']) then
        complain name ("refusing to remove '.' or '..' directory: skipping ".toList ++ quoted path)
        return 1
      else
        let inner ← if !isDeep then pure 0
          else match ← namesIn path with
            | .ok names => worst (fun n => removeOne name options depth (inside path n)) names
            | .error cause => cannotRemove name path cause
        if inner ≠ 0 then return inner
        else match ← change (.removeDirectory path) with
          | .ok _ =>
            note "removed directory "
            return 0
          | .error cause => cannotRemove name path cause

/-- Removes files, and directories if that is asked for. -/
def rm : List Raw → Program :=
  withOptions [⟨'d', "dir", false⟩, ⟨'f', "force", false⟩, ⟨'i', "", false⟩, ⟨'I', "", false⟩,
      ⟨'r', "recursive", false⟩, ⟨'R', "", false⟩, ⟨'v', "verbose", false⟩] false 1
    fun name options operands => do
      if operands.isEmpty then
        if has options 'f' then return 0 else misuse name "missing operand".toList 1
      else worst (removeOne name options depthLimit) operands

/-- Writes the content of a file to another one. -/
def copyContent (source target : Nat) : Nat → Act (Except IoError Unit)
  | 0 => return .ok ()
  | steps + 1 => do
    match ← ask (.read source 131072) with
    | .error cause => return .error cause
    | .ok bytes =>
      if bytes.isEmpty then return .ok ()
      else match ← ask (.write target bytes) with
        | .error cause => return .error cause
        | .ok _ => copyContent source target steps

/-- Copies a regular file. -/
def copyFile (name source target : Raw) (mode : Nat) : Program := do
  let fault (what : String) (path : Raw) (cause : IoError) : Program := do
    complain name (what.toList ++ quoted path ++ ": ".toList ++ wording cause)
    return 1
  match ← ask (.openFile source .read) with
  | .error cause =>
    complain name ("cannot open ".toList ++ quoted source ++ " for reading: ".toList ++
      wording cause)
    return 1
  | .ok input =>
    let isNew ← do
      match ← look target true with
      | .ok _ => pure false
      | .error _ => pure true
    let opened ← if target.getLast? == some '/' then pure (Except.error IoError.notDirectory)
      else ask (.openFile target .write)
    match opened with
    | .error cause =>
      let _ ← ask (.close input)
      fault "cannot create regular file " target cause
    | .ok output =>
      let copied ← copyContent input output tries
      let _ ← ask (.close input)
      let _ ← ask (.close output)
      if isNew then
        let mask ← ask (.setMask 0)
        let _ ← ask (.setMask mask)
        let _ ← change (.setMode target (Permission.without mode mask))
      match copied with
      | .ok _ => return 0
      | .error cause => fault "error copying " source cause

/-- A directory that was made for a copy. -/
structure Made where
  identity : String
  source : Raw
  target : Raw

/-- Copies what is at a path to another one. A directory that was made for it is not copied. -/
def copyOne (name : Raw) (options : List Given) : Nat → Option Made → Raw → Raw → Program
  | 0, _, _, _ => return 1
  | depth + 1, outermost, source, target => do
    let isDeep := ['r', 'R', 'a'].any (has options)
    let note : Act Unit := do
      if has options 'v' then
        let _ ← put name (quoted source ++ " -> ".toList ++ quoted target ++ ['\n'])
    match ← look source (!isDeep), ← look target true with
    | .error cause, _ =>
      complain name ("cannot stat ".toList ++ quoted source ++ ": ".toList ++ wording cause)
      return 1
    | .ok status, old =>
      if old.toOption.any fun o => o.identity == status.identity && o.identity ≠ "" then
        complain name (quoted source ++ " and ".toList ++ quoted target ++
          " are the same file".toList)
        return 1
      else match status.kind, old with
        | .directory, old =>
          if let some made := outermost then
            if made.identity == status.identity then
              complain name ("cannot copy a directory, ".toList ++ quoted made.source ++
                ", into itself, ".toList ++ quoted made.target)
              return 1
          if !isDeep then
            complain name ("-r not specified; omitting directory ".toList ++ quoted source)
            return 1
          else if old.toOption.any (·.kind != .directory) then
            complain name ("cannot overwrite non-directory ".toList ++ quoted target ++
              " with directory ".toList ++ quoted source)
            return 1
          else
            let made ← if old.toOption.isSome then pure (.ok ())
              else change (.makeDirectory target status.mode)
            match made, ← namesIn source with
            | .error cause, _ | _, .error cause =>
              complain name ("cannot create directory ".toList ++ quoted target ++ ": ".toList ++
                wording cause)
              return 1
            | .ok _, .ok names =>
              note
              let new ← look target true
              let outermost := outermost <|> new.toOption.map fun s => ⟨s.identity, source, target⟩
              worst (fun n => copyOne name options depth outermost (inside source n)
                (inside target n)) names
        | .link, _ =>
          match ← ask (.readLink source) with
          | .ok path =>
            let _ ← change (.remove target)
            let _ ← change (.linkPath path target)
            return 0
          | .error _ => return 1
        | _, .ok { kind := .directory, .. } =>
          complain name ("cannot overwrite directory ".toList ++ quoted target ++
            " with non-directory".toList)
          return 1
        | _, old =>
          if has options 'n' && old.toOption.isSome then return 0
          else
            note
            copyFile name source target status.mode

/-- Moves what is at a path to another one. -/
def moveOne (name : Raw) (options : List Given) (source target : Raw) : Program := do
  match ← look source false, ← look target true with
  | .error cause, _ =>
    complain name ("cannot stat ".toList ++ quoted source ++ ": ".toList ++ wording cause)
    return 1
  | .ok status, old =>
    let fault (message : Raw) : Program := do
      complain name message
      return 1
    if old.toOption.any fun o => o.identity == status.identity then
      fault (quoted source ++ " and ".toList ++ quoted target ++ " are the same file".toList)
    else if has options 'n' && old.toOption.isSome then
      fault ("not replacing ".toList ++ quoted target)
    else if status.kind = .directory && old.toOption.any (·.kind != .directory) then
      fault ("cannot overwrite non-directory ".toList ++ quoted target ++
        " with directory ".toList ++ quoted source)
    else if status.kind ≠ .directory && old.toOption.any (·.kind == .directory) then
      fault ("cannot overwrite directory ".toList ++ quoted target ++ " with non-directory".toList)
    else match ← change (.rename source target) with
      | .ok _ =>
        if has options 'v' then
          let _ ← put name ("renamed ".toList ++ quoted source ++ " -> ".toList ++ quoted target ++
            ['\n'])
        return 0
      | .error .invalid =>
        fault ("cannot move ".toList ++ quoted source ++ " to a subdirectory of itself, ".toList ++
          quoted target)
      | .error cause =>
        fault ("cannot move ".toList ++ quoted source ++ " to ".toList ++ quoted target ++
          ": ".toList ++ wording cause)

/-- Does something with each source and its target, the last operand or a path in it. -/
def transfer (action : Raw → List Given → Raw → Raw → Program) (name : Raw) (options : List Given)
    (operands : List Raw) : Program := do
  let operands := match valueOf? options 't' with
    | some target => operands ++ [target]
    | none => operands
  match operands.reverse with
  | [] => misuse name "missing file operand".toList 1
  | [only] =>
    misuse name ("missing destination file operand after ".toList ++ quoted only) 1
  | target :: sources =>
    let found ← look target true
    let isInside := found.toOption.any (·.kind == .directory) && !has options 'T'
    match isInside, sources, found with
    | false, _ :: _ :: _, .error cause =>
      complain name ("target ".toList ++ quoted target ++ ": ".toList ++ wording cause)
      return 1
    | false, _ :: _ :: _, .ok _ =>
      complain name ("target ".toList ++ quoted target ++ ": ".toList ++ wording .notDirectory)
      return 1
    | _, _, _ =>
      worst (fun source =>
        action name options source (if isInside then inside target (lastName source) else target))
        sources.reverse

/-- The options of `cp` and `mv`. -/
def transferOptions : List Known :=
  [⟨'a', "archive", false⟩, ⟨'f', "force", false⟩, ⟨'i', "interactive", false⟩,
    ⟨'n', "no-clobber", false⟩, ⟨'p', "", false⟩, ⟨'r', "recursive", false⟩, ⟨'R', "", false⟩,
    ⟨'t', "target-directory", true⟩, ⟨'T', "no-target-directory", false⟩, ⟨'u', "update", false⟩,
    ⟨'v', "verbose", false⟩]

/-- Copies files. -/
def cp : List Raw → Program :=
  withOptions transferOptions false 1
    (transfer fun name options source target => copyOne name options depthLimit none source target)

/-- Moves files. -/
def mv : List Raw → Program := withOptions transferOptions false 1 (transfer moveOne)

/-- Gives a file another name, or makes a link to a path. -/
def linkOne (name : Raw) (options : List Given) (source target : Raw) : Program := do
  let symbolic := has options 's'
  let fault (message : Raw) : Program := do
    complain name message
    return 1
  let found ← look source false
  match found with
  | .error cause =>
    if !symbolic then
      return ← fault ("failed to access ".toList ++ quoted source ++ ": ".toList ++ wording cause)
  | .ok status =>
    if !symbolic && status.kind = .directory then
      return ← fault (source ++ ": hard link not allowed for directory".toList)
  if has options 'f' then let _ ← change (.remove target)
  match ← change (if symbolic then .linkPath source target else .linkFile source target) with
  | .ok _ => return 0
  | .error cause =>
    let kind := if symbolic then "symbolic link " else "hard link "
    fault ("failed to create ".toList ++ kind.toList ++ quoted target ++ ": ".toList ++
      wording cause)

/-- Makes links. -/
def ln : List Raw → Program :=
  withOptions [⟨'f', "force", false⟩, ⟨'n', "no-dereference", false⟩, ⟨'s', "symbolic", false⟩,
      ⟨'t', "target-directory", true⟩, ⟨'T', "no-target-directory", false⟩,
      ⟨'v', "verbose", false⟩] false 1 fun name options operands =>
    match operands with
    | [source] =>
      if has options 't' then transfer linkOne name options operands
      else linkOne name options source (lastName source)
    | operands => transfer linkOne name options operands

/-- Sets the permissions of a file, and of what is below it if that is asked for. -/
def chmodOne (name : Raw) (options : List Given) (mask : Nat) (how : Raw) : Nat → Raw → Program
  | 0, _ => return 1
  | depth + 1, path => do
    match ← look path true with
    | .error cause =>
      complain name ("cannot access ".toList ++ quoted path ++ ": ".toList ++ wording cause)
      return 1
    | .ok status =>
      let runs (mode : Nat) : Bool := mode &&& 0o111 != 0 || status.kind = .directory
      let mode := match Permission.octal? how with
        | some mode => mode
        | none => (Permission.changed? mask runs status.mode how).getD status.mode
      match ← change (.setMode path mode) with
      | .error cause =>
        complain name ("changing permissions of ".toList ++ quoted path ++ ": ".toList ++
          wording cause)
        return 1
      | .ok _ =>
        if has options 'R' && status.kind = .directory then
          match ← namesIn path with
          | .ok names => worst (fun n => chmodOne name options mask how depth (inside path n)) names
          | .error _ => return 1
        else return 0

/-- Arguments in which a mode that starts with a hyphen is no option. -/
def protectMode (arguments : List Raw) : List Raw :=
  match arguments with
  | ('-' :: c :: rest) :: more =>
    if "rwxXst".toList.contains c then ['-', '-'] :: ('-' :: c :: rest) :: more else arguments
  | _ => arguments

/-- Sets the permissions of files. -/
def chmod (arguments : List Raw) : Program :=
  withOptions [⟨'R', "recursive", false⟩, ⟨'f', "silent", false⟩, ⟨'v', "verbose", false⟩,
      ⟨'c', "changes", false⟩] false 1 (fun name options operands => do
    match operands with
    | [] => misuse name "missing operand".toList 1
    | [mode] => misuse name ("missing operand after ".toList ++ quoted mode) 1
    | how :: paths =>
      let mask ← ask (.setMask 0)
      let _ ← ask (.setMask mask)
      let isMode := match Permission.octal? how with
        | some mode => mode ≤ 0o7777
        | none => (Permission.changed? 0 (fun _ => false) 0 how).isSome
      if !isMode then misuse name ("invalid mode: ".toList ++ quoted how) 1
      else worst (chmodOne name options mask how depthLimit) paths)
    (arguments.take 1 ++ protectMode (arguments.drop 1))

/-- Makes empty files where there are none. -/
def touch : List Raw → Program :=
  withOptions [⟨'a', "", false⟩, ⟨'c', "no-create", false⟩, ⟨'d', "date", true⟩, ⟨'f', "", false⟩,
      ⟨'m', "", false⟩, ⟨'r', "reference", true⟩, ⟨'t', "", true⟩,
      ⟨'h', "no-dereference", false⟩] false 1 fun name options operands => do
    if operands.isEmpty then misuse name "missing file operand".toList 1
    else worst (fun path => do
      match ← look path true with
      | .ok _ => return 0
      | .error old =>
        if has options 'c' then return 0
        else if path.getLast? == some '/' then
          complain name ("setting times of ".toList ++ quoted path ++ ": ".toList ++ wording old)
          return 1
        else match ← ask (.openFile path .append) with
          | .ok descriptor =>
            let _ ← ask (.close descriptor)
            return 0
          | .error cause =>
            complain name ("cannot touch ".toList ++ quoted path ++ ": ".toList ++ wording cause)
            return 1) operands

/-- Shows what links lead to. -/
def readlink : List Raw → Program :=
  withOptions [⟨'f', "canonicalize", false⟩, ⟨'e', "canonicalize-existing", false⟩,
      ⟨'n', "no-newline", false⟩] false 1 fun name options operands => do
    if operands.isEmpty then misuse name "missing operand".toList 1
    else worst (fun path => do
      match ← ask (.readLink path) with
      | .ok target => putAll name (target ++ if has options 'n' then [] else ['\n']) 0
      | .error _ => return 1) operands

end Judge.Host.Utility
