import Judge.Host.Program

/-!
Arguments of utilities: options of one letter, which can be put together, options with a name, which
can be cut short, and operands between them.
-/

namespace Judge.Host.Utility

/-- An option that a utility knows. -/
structure Known where
  letter : Char
  name : String := ""
  takesValue : Bool := false
  deriving Repr

/-- An option that was given. -/
structure Given where
  letter : Char
  value : Raw := []
  deriving Repr

/-- What is wrong with arguments. -/
inductive OptionFault where
  | unknownLetter (letter : Char)
  | unknownName (argument : Raw)
  | ambiguous (argument : Raw) (names : List String)
  | missingValue (letter : Char)
  | missingNamedValue (name : String)
  | unwantedValue (name : String)
  deriving Repr

/-- The wording of each fault. -/
def OptionFault.message : OptionFault → Raw
  | .unknownLetter letter => "invalid option -- '".toList ++ [letter, '\'']
  | .unknownName argument => "unrecognized option '".toList ++ argument ++ ['\'']
  | .ambiguous argument names =>
    "option '".toList ++ argument ++ "' is ambiguous; possibilities:".toList ++
      names.flatMap fun name => " '--".toList ++ name.toList ++ ['\'']
  | .missingValue letter => "option requires an argument -- '".toList ++ [letter, '\'']
  | .missingNamedValue name => "option '--".toList ++ name.toList ++ "' requires an argument".toList
  | .unwantedValue name => "option '--".toList ++ name.toList ++ "' doesn't allow an argument".toList

/-- The arguments as they were understood: the options and the operands, both in reverse. -/
structure Parsed where
  options : List Given := []
  operands : List Raw := []
  deriving Repr

/-- The option with a name, which may be cut short, and the value behind it. -/
def findNamed (known : List Known) (argument : Raw) : Except OptionFault (Known × Option Raw) :=
  let (name, value) := match Text.cut '=' argument with
    | some (name, value) => (name, some value)
    | none => (argument, none)
  let shown := '-' :: '-' :: name
  let fitting := known.filter fun k => k.name ≠ "" && name.isPrefixOf k.name.toList
  match fitting.find? (fun k => k.name.toList == name), fitting with
  | some k, _ => .ok (k, value)
  | none, [k] => .ok (k, value)
  | none, [] => .error (.unknownName ('-' :: '-' :: argument))
  | none, several => .error (.ambiguous shown (several.map (·.name)))

/-- Goes through arguments. The letters are what is left of the argument before them. If `inFront` is
set, the options end where the operands start. -/
def parseFrom (known : List Known) (inFront : Bool) :
    Nat → Raw → List Raw → Parsed → Except OptionFault Parsed
  | 0, _, _, parsed => .ok parsed
  | steps + 1, letter :: letters, arguments, parsed =>
    match known.find? (·.letter == letter) with
    | none => .error (.unknownLetter letter)
    | some k =>
      if !k.takesValue then
        parseFrom known inFront steps letters arguments
          { parsed with options := { letter } :: parsed.options }
      else match letters, arguments with
        | [], [] => .error (.missingValue letter)
        | [], value :: rest =>
          parseFrom known inFront steps [] rest
            { parsed with options := { letter, value } :: parsed.options }
        | value, rest =>
          parseFrom known inFront steps [] rest
            { parsed with options := { letter, value } :: parsed.options }
  | _, [], [], parsed => .ok parsed
  | steps + 1, [], argument :: rest, parsed =>
    match argument with
    | ['-', '-'] => .ok { parsed with operands := rest.reverse ++ parsed.operands }
    | '-' :: '-' :: name => do
      let (k, value) ← findNamed known name
      match k.takesValue, value, rest with
      | false, some _, _ => throw (.unwantedValue k.name)
      | false, none, rest =>
        parseFrom known inFront steps [] rest
          { parsed with options := { letter := k.letter } :: parsed.options }
      | true, some value, rest =>
        parseFrom known inFront steps [] rest
          { parsed with options := { letter := k.letter, value } :: parsed.options }
      | true, none, value :: rest =>
        parseFrom known inFront steps [] rest
          { parsed with options := { letter := k.letter, value } :: parsed.options }
      | true, none, [] => throw (.missingNamedValue k.name)
    | '-' :: letter :: letters =>
      parseFrom known inFront steps (letter :: letters) rest parsed
    | operand =>
      if inFront then .ok { parsed with operands := (operand :: rest).reverse ++ parsed.operands }
      else parseFrom known inFront steps [] rest
        { parsed with operands := operand :: parsed.operands }

/-- The options and the operands of arguments. -/
def parse (known : List Known) (inFront : Bool) (arguments : List Raw) :
    Except OptionFault (List Given × List Raw) := do
  let steps := arguments.foldl (fun n a => n + a.length + 2) 2
  let parsed ← parseFrom known inFront steps [] arguments {}
  return (parsed.options.reverse, parsed.operands.reverse)

/-- Whether an option was given. -/
def has (options : List Given) (letter : Char) : Bool := options.any (·.letter == letter)

/-- The value that an option was given last. -/
def valueOf? (options : List Given) (letter : Char) : Option Raw :=
  (options.reverse.find? (·.letter == letter)).map (·.value)

end Judge.Host.Utility
