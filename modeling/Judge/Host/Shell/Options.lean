import Judge.Host.Shell.Session

/-!
Options of commands: letters behind a hyphen in front of the operands, some of which take a value.
-/

namespace Judge.Host.Shell

/-- An option that was given, with its value if it takes one. -/
structure GivenOption where
  letter : Char
  value : Raw := []
  deriving Repr

namespace Sh

/-- A letter that is accepted, and whether it takes a value. -/
abbrev Accepted := List (Char × Bool)

/-- Takes the options in front of the operands; the letters are what is left of the argument before
them. -/
def takeOptions (accepted : Accepted) :
    Nat → Raw → List Raw → List GivenOption → Sh (List GivenOption × List Raw)
  | 0, _, arguments, found => return (found.reverse, arguments)
  | steps + 1, letter :: letters, arguments, found => do
    match accepted.lookup letter with
    | none => fail ("Illegal option -".toList ++ [letter])
    | some false => takeOptions accepted steps letters arguments ({ letter } :: found)
    | some true =>
      match letters, arguments with
      | [], [] => fail ("No arg for -".toList ++ [letter] ++ " option".toList)
      | [], value :: rest => takeOptions accepted steps [] rest ({ letter, value } :: found)
      | value, rest => takeOptions accepted steps [] rest ({ letter, value } :: found)
  | steps + 1, [], arguments, found => do
    match arguments with
    | ['-', '-'] :: rest => return (found.reverse, rest)
    | ('-' :: letter :: letters) :: rest =>
      takeOptions accepted steps (letter :: letters) rest found
    | _ => return (found.reverse, arguments)

/-- The options in front of the operands, and the operands. -/
def options (accepted : String) (withValue : String) (arguments : List Raw) :
    Sh (List GivenOption × List Raw) :=
  let letters := accepted.toList.map (·, false) ++ withValue.toList.map (·, true)
  takeOptions letters (arguments.foldl (fun n a => n + a.length + 1) 1) [] arguments []

end Sh
end Judge.Host.Shell
