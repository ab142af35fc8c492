import Judge.Decimal.Integer

/-!
One level of a command line: the options, operands and subcommands that it knows, and how arguments
are read against them. The value of an option that stands in an argument of its own is looked at
when the next option or operand starts, so a later unknown option is reported before a bad value.
-/

namespace Judge.CommandLine

/-- What a command line asks for instead of a command, or what is wrong with it. -/
inductive Stop where
  /-- Help on the whole program, or on a subcommand. -/
  | help (topic : Option String)
  | version
  /-- There is no argument at all. -/
  | nothingGiven
  | unknownArgument
  | unknownCommand
  | missingCommand
  | missingArgument
  /-- A value of the wrong form. -/
  | badValue
  /-- No value, or an empty path. -/
  | noValue
  | repeatedOption
  /-- A value for an option that takes none. -/
  | needlessValue
  deriving DecidableEq, Repr

/-- What a value must be. -/
inductive Form where
  | text
  | path
  | number
  deriving DecidableEq, Repr

/-- Checks the form of a value. -/
def Form.check (form : Form) (value : String) : Except Stop Unit :=
  match form with
  | .text => .ok ()
  | .path => if value.isEmpty then .error .noValue else .ok ()
  | .number =>
    if (Decimal.readInteger? Decimal.int64 value.toList).isSome then .ok () else .error .badValue

/-- An option with a value, or an operand. -/
structure Parameter where
  name : String
  form : Form
  /-- The letter of an option. -/
  letter : Option Char := none
  /-- Whether a value may look like a negative number. -/
  negative : Bool := false
  /-- What help says about it. -/
  about : String := ""
  deriving DecidableEq, Repr

/-- What a level knows. -/
structure Level where
  /-- The subcommand whose level this is. -/
  name : Option String := none
  /-- What help says about it. -/
  about : String := ""
  options : List Parameter := []
  operands : List Parameter := []
  subcommands : List String := []
  /-- Whether the version can be asked for. -/
  versioned : Bool := false
  deriving DecidableEq, Repr

/-- What has been read of a level. -/
structure Progress where
  /-- A parameter whose value has not been looked at, and the value if it is there. -/
  pending : Option (Parameter × Option String) := none
  /-- The values by parameter, later ones first. -/
  values : List (String × String) := []
  /-- The number of operands read. -/
  operands : Nat := 0
  /-- Whether only operands may follow. -/
  onlyOperands : Bool := false
  deriving DecidableEq, Repr

namespace Progress

/-- Gives a parameter its value. -/
def assign (p : Progress) (parameter : Parameter) (value : Option String) :
    Except Stop Progress := do
  let some value := value | throw .noValue
  if (p.values.lookup parameter.name).isSome then throw .repeatedOption
  parameter.form.check value
  return { p with values := (parameter.name, value) :: p.values }

/-- Looks at the value of the pending parameter. -/
def settle (p : Progress) : Except Stop Progress :=
  match p.pending with
  | none => .ok p
  | some (parameter, value) => { p with pending := none }.assign parameter value

/-- The option that waits for its value. -/
def awaiting? (p : Progress) : Option Parameter :=
  match p.pending with
  | some (parameter, none) => some parameter
  | _ => none

/-- Whether there is any option or operand so far. -/
def isEmpty (p : Progress) : Bool := p.values.isEmpty && p.pending.isNone

/-- Starts an option, whose value may be attached to it. -/
def startOption (p : Progress) (parameter : Parameter) (attached : Option String) :
    Except Stop Progress := do
  let p ← p.settle
  match attached with
  | some value => p.assign parameter (some value)
  | none => return { p with pending := some (parameter, none) }

/-- Takes an operand. -/
def startOperand (p : Progress) (parameter : Parameter) (value : String) :
    Except Stop Progress := do
  let p ← p.settle
  return { p with pending := some (parameter, some value), operands := p.operands + 1 }

end Progress

/-- Whether the part of an argument behind a minus sign is a number: digits with at most one point
and at most one `e`, neither of them in front and no `e` at the end. -/
def looksNumeric (text : List Char) : Bool :=
  let (whole, rest) := text.span Char.isDigit
  let exponentOk : List Char → Bool
    | [] => true
    | 'e' :: digits => !digits.isEmpty && digits.all Char.isDigit
    | _ => false
  match whole, rest with
  | [], rest => rest.isEmpty
  | _, '.' :: rest => exponentOk (rest.dropWhile Char.isDigit)
  | _, rest => exponentOk rest

namespace Level

/-- Reads a long option without its two hyphens. -/
def readLong (level : Level) (p : Progress) (text : List Char) : Except Stop Progress := do
  let (name, attached) := match text.span (· != '=') with
    | (name, '=' :: value) => (String.ofList name, some (String.ofList value))
    | (name, _) => (String.ofList name, none)
  match level.options.find? (·.name == name) with
  | some parameter => p.startOption parameter attached
  | none =>
    let stop ← if name == "help" then pure (Stop.help level.name)
      else if name == "version" && level.versioned then pure Stop.version
      else throw .unknownArgument
    if attached.isSome then throw .needlessValue
    let _ ← p.settle
    throw stop

/-- Reads short options without their hyphen. The first of them decides: all that are no option
with a value end the reading. -/
def readShort (level : Level) (p : Progress) (letter : Char) (rest : List Char) :
    Except Stop Progress := do
  match level.options.find? (·.letter == some letter) with
  | some parameter =>
    match rest with
    | [] => p.startOption parameter none
    | '=' :: value => p.startOption parameter (some (String.ofList value))
    | value => p.startOption parameter (some (String.ofList value))
  | none =>
    let stop ← if letter == 'h' then pure (Stop.help level.name)
      else if letter == 'V' && level.versioned then pure Stop.version
      else throw .unknownArgument
    let _ ← p.settle
    throw stop

/-- Reads an argument that is no option: the value of the option that waits for one, or an
operand. -/
def readPlain (level : Level) (p : Progress) (argument : String) : Except Stop Progress :=
  match if p.onlyOperands then none else p.awaiting? with
  | some parameter => .ok { p with pending := some (parameter, some argument) }
  | none =>
    match level.operands[p.operands]? with
    | some parameter => p.startOperand parameter argument
    | none =>
      if level.subcommands.isEmpty then .error .unknownArgument
      else if p.onlyOperands && level.subcommands.contains argument then .error .unknownArgument
      else .error .unknownCommand

/-- Reads one argument that is no subcommand. -/
def readArgument (level : Level) (p : Progress) (argument : String) : Except Stop Progress :=
  if p.onlyOperands then level.readPlain p argument
  else match argument.toList with
    | ['-', '-'] => .ok { p with onlyOperands := true }
    | '-' :: '-' :: text => level.readLong p text
    | '-' :: letter :: rest =>
      if (p.awaiting?.any (·.negative)) && looksNumeric (letter :: rest) then
        level.readPlain p argument
      else level.readShort p letter rest
    | _ => level.readPlain p argument

/-- Reads arguments up to a subcommand, which is given with the arguments after it. -/
def read (level : Level) (p : Progress) :
    List String → Except Stop (Progress × Option (String × List String))
  | [] => .ok (p, none)
  | argument :: rest =>
    if !p.onlyOperands && p.awaiting?.isNone && level.subcommands.contains argument then
      .ok (p, some (argument, rest))
    else do read level (← level.readArgument p argument) rest

/-- Reads all arguments of a level without subcommands; each of its parameters is needed. -/
def readAll (level : Level) (arguments : List String) : Except Stop (List (String × String)) := do
  let (p, _) ← level.read {} arguments
  let p ← p.settle
  if (level.operands ++ level.options).all fun parameter => (p.values.lookup parameter.name).isSome
  then return p.values
  else throw .missingArgument

end Level
end Judge.CommandLine
