import Judge.Text.Lines

/-!
Names of files: the components of a path, its last name and that name's extension, and joining.
Repeated separators and single dots, except for a leading one, do not count.
-/

namespace Judge.Path

/-- The parts of a path. -/
inductive Component where
  | root
  | current
  | parent
  | normal (name : List Char)
  deriving DecidableEq, Repr

/-- The components after the first piece. -/
def laterComponents (pieces : List (List Char)) : List Component :=
  pieces.filterMap fun piece =>
    match piece with
    | [] => none
    | ['.'] => none
    | ['.', '.'] => some .parent
    | name => some (.normal name)

/-- The components of a path. -/
def components (path : List Char) : List Component :=
  match Text.splitAt '/' path with
  | [] => []
  | [] :: pieces => (if path.isEmpty then [] else [.root]) ++ laterComponents pieces
  | ['.'] :: pieces => .current :: laterComponents pieces
  | pieces => laterComponents pieces

/-- The name of the file that a path leads to. -/
def fileName? (path : List Char) : Option (List Char) :=
  match (components path).getLast? with
  | some (.normal name) => some name
  | _ => none

/-- The part of a name after its last dot, unless that dot comes first. -/
def extensionOf (name : List Char) : Option (List Char) :=
  match Text.cutLast '.' name with
  | none => none
  | some ([], _) => none
  | some (_, extension) => some extension

/-- The extension of the file that a path leads to. -/
def extension? (path : List Char) : Option (List Char) := (fileName? path).bind extensionOf

/-- Whether a path starts at the root. -/
def isAbsolute (path : String) : Bool := path.toList.head? == some '/'

/-- The path that leads from a base along another path, which stands alone if it is absolute. -/
def join (base path : String) : String :=
  if isAbsolute path || base.isEmpty then path
  else if base.toList.getLast? == some '/' then base ++ path
  else base ++ "/" ++ path

/-- The path of what holds the last component. -/
def parent (path : String) : String :=
  let pieces := (Text.splitAt '/' path.toList).reverse.dropWhile fun piece =>
    piece.isEmpty || piece == ['.']
  String.ofList (Text.join ['/'] (pieces.drop 1).reverse)

example : fileName? "a/b.in/.".toList = some "b.in".toList := by decide

example : extension? ".cpp".toList = none ∧ extension? "a.".toList = some [] := by decide

end Judge.Path
