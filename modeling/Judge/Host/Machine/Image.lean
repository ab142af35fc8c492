import Judge.Host.Machine

/-!
What a path leads to when it is to be run: a program of the host, or a script that names its
interpreter in its first line.
-/

namespace Judge.Host

/-- The start of the file of a program of the host; its name follows. -/
def imageMark : Bytes := [0x7f, 0x45, 0x4c, 0x46]

/-- The file of a program of the host. -/
def imageOf (name : String) : Bytes := imageMark ++ Utf8.ofString name

/-- What follows the mark of a program of the host. -/
def imageName? : Bytes → Option Raw
  | 0x7f :: 0x45 :: 0x4c :: 0x46 :: name => some (Raw.ofBytes name)
  | _ => none

/-- The interpreter and its argument that the first line of a script names. -/
def interpreter? : Bytes → Option (Raw × List Raw)
  | 35 :: 33 :: rest =>
    let blank (c : Char) : Bool := c == ' ' || c == '\t'
    let line := (Raw.ofBytes (rest.takeWhile (· != 10))).dropWhile blank
    let (program, argument) := line.span (!blank ·)
    let argument := ((argument.dropWhile blank).reverse.dropWhile blank).reverse
    if program.isEmpty then none
    else some (program, if argument.isEmpty then [] else [argument])
  | _ => none

/-- How many files may be gone through until a program of the host is found. -/
def imageLimit : Nat := 6

/-- A program to be run with its arguments. -/
structure Image where
  name : Raw
  arguments : List Raw

/-- What is run for a path and arguments, going through at most so many files. -/
def imageAt (tree : FileTree) (directory : Location) :
    Nat → Raw → List Raw → Except IoError Image
  | 0, _, _ => .error .tooManyLinks
  | limit + 1, path, arguments => do
    match ← tree.stat (← tree.resolve true directory (Raw.toString path)) with
    | .file content mode =>
      if mode &&& 0o111 == 0 then throw .permission
      let bytes := content.bytes
      match imageName? bytes, interpreter? bytes with
      | some name, _ => return { name, arguments }
      | none, some (interpreter, extra) =>
        imageAt tree directory limit interpreter
          (interpreter :: extra ++ path :: arguments.drop 1)
      | none, none => throw .badFormat
    | _ => throw .permission

/-- The first path among some that leads to something, and what is run for it. What cannot be run is
passed, and is what is told in the end. -/
def imageAmong (tree : FileTree) (directory : Location) (arguments : List Raw) (cause : IoError) :
    List Raw → Except IoError (Raw × Except IoError Image)
  | [] => .error cause
  | path :: rest =>
    match imageAt tree directory imageLimit path arguments with
    | .error .missing | .error .notDirectory => imageAmong tree directory arguments cause rest
    | .error .permission => imageAmong tree directory arguments .permission rest
    | found => .ok (path, found)

end Judge.Host
