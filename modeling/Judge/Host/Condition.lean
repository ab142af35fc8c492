import Judge.Host.Numeral
import Judge.Host.Program

/-!
Conditions on texts, numbers and files, as they are given in words. A word that could be an operator
is taken for a text where the words around it ask for that.
-/

namespace Judge.Host

namespace Condition

/-- What is asked of one operand. -/
inductive Unary where
  | isEmpty
  | isNonempty
  | isTerminal
  | isReadable
  | isWritable
  | isRunnable
  | exists_
  | isRegular
  | isDirectory
  | isLink
  | isDevice
  | isPipe
  | hasContent
  /-- What no file of the host is. -/
  | isOther
  | isOwned
  deriving DecidableEq, Repr

/-- What is asked of two operands. -/
inductive Binary where
  | textEqual
  | textDifferent
  | textLess
  | textGreater
  | numberEqual
  | numberDifferent
  | numberLess
  | numberAtMost
  | numberGreater
  | numberAtLeast
  | newer
  | older
  | sameFile
  deriving DecidableEq, Repr

/-- An operator. -/
inductive Operator where
  | unary (operator : Unary)
  | binary (operator : Binary)
  | not
  | and
  | or
  | opening
  | closing
  deriving DecidableEq, Repr

/-- The operators by their spelling. -/
def operators : List (String × Operator) :=
  [("-z", .unary .isEmpty), ("-n", .unary .isNonempty), ("-t", .unary .isTerminal),
    ("-r", .unary .isReadable), ("-w", .unary .isWritable), ("-x", .unary .isRunnable),
    ("-e", .unary .exists_), ("-f", .unary .isRegular), ("-d", .unary .isDirectory),
    ("-h", .unary .isLink), ("-L", .unary .isLink), ("-c", .unary .isDevice),
    ("-p", .unary .isPipe), ("-s", .unary .hasContent), ("-b", .unary .isOther),
    ("-S", .unary .isOther), ("-u", .unary .isOther), ("-g", .unary .isOther),
    ("-k", .unary .isOther), ("-O", .unary .isOwned), ("-G", .unary .isOwned),
    ("=", .binary .textEqual), ("!=", .binary .textDifferent), ("<", .binary .textLess),
    (">", .binary .textGreater), ("-eq", .binary .numberEqual), ("-ne", .binary .numberDifferent),
    ("-lt", .binary .numberLess), ("-le", .binary .numberAtMost), ("-gt", .binary .numberGreater),
    ("-ge", .binary .numberAtLeast), ("-nt", .binary .newer), ("-ot", .binary .older),
    ("-ef", .binary .sameFile), ("!", .not), ("-a", .and), ("-o", .or), ("(", .opening),
    (")", .closing)]

/-- The operator that a word spells. -/
def operator? (word : Raw) : Option Operator :=
  (operators.find? fun o => o.1.toList == word).map (·.2)

/-- Why a condition makes no sense. -/
inductive Fault where
  | missingArgument (operator : Raw)
  | noClosing
  /-- A word behind a whole condition, and what follows it. -/
  | unexpected (word next : Raw)
  | badNumber (word : Raw)
  deriving DecidableEq, Repr

/-- The wording of each fault. -/
def Fault.message : Fault → Raw
  | .missingArgument operator => operator ++ ": argument expected".toList
  | .noClosing => "closing paren expected".toList
  | .unexpected word _ => word ++ ": unexpected operator".toList
  | .badNumber word => "Illegal number: ".toList ++ word

/-- A condition that is being worked out. -/
abbrev Check (α : Type) := ExceptT Fault Act α

/-- Makes a request. -/
def request (r : Request) : Check r.Answer := ExceptT.lift (ask r)

/-- What a word is where it stands in front of others. -/
def lex : List Raw → Option Operator
  | [] => none
  | word :: rest =>
    match operator? word, rest with
    | some (.unary _), [] => none
    | some (.unary operator), second :: _ :: _ =>
      if operator? second matches some (.binary _) then none else some (.unary operator)
    | some .opening, [] => none
    | found, _ => found

/-- What is known of the file at a path. -/
def statusOf (path : Raw) (follow : Bool) : Check (Option FileStatus) := do
  return (← request (.look path follow)).toOption

/-- Works out what is asked of an operand. -/
def askUnary (operator : Unary) (word : Raw) : Check Bool := do
  let holds (test : FileStatus → Bool) : Check Bool := do
    return (← statusOf word true).any test
  match operator with
  | .isEmpty => return word.isEmpty
  | .isNonempty => return !word.isEmpty
  | .isTerminal =>
    match Numeral.whole? 10 word with
    | some _ => return false
    | none => throw (.badNumber word)
  | .isReadable | .isWritable | .exists_ | .isOwned => holds fun _ => true
  | .isRunnable => holds fun s => s.mode &&& 0o111 != 0
  | .isRegular => holds (·.kind == .regular)
  | .isDirectory => holds (·.kind == .directory)
  | .isLink => return (← statusOf word false).any (·.kind == .link)
  | .isDevice => holds (·.kind == .device)
  | .isPipe => holds (·.kind == .pipe)
  | .hasContent => holds (0 < ·.size)
  | .isOther => return false

/-- The number that a word is. -/
def number (word : Raw) : Check Int :=
  match Numeral.whole? 10 word with
  | some n => pure n
  | none => throw (.badNumber word)

/-- Works out what is asked of two operands. -/
def askBinary (operator : Binary) (a b : Raw) : Check Bool := do
  let compare (test : Int → Int → Bool) : Check Bool := do
    let x ← number a
    return test x (← number b)
  match operator with
  | .textEqual => return a == b
  | .textDifferent => return a != b
  | .textLess => return decide (a < b)
  | .textGreater => return decide (b < a)
  | .numberEqual => compare (· == ·)
  | .numberDifferent => compare (· != ·)
  | .numberLess => compare fun x y => x < y
  | .numberAtMost => compare fun x y => x ≤ y
  | .numberGreater => compare fun x y => y < x
  | .numberAtLeast => compare fun x y => y ≤ x
  | .newer => return (← statusOf a true).isSome && (← statusOf b true).isNone && false
  | .older => return false
  | .sameFile =>
    match ← statusOf a true, ← statusOf b true with
    | some x, some y => return x.identity == y.identity
    | _, _ => return false

/-- A truth value, and the words from the last one that was used on. -/
abbrev Step := Check (Bool × List Raw)

mutual

/-- Works out a disjunction. -/
def disjunction : Nat → List Raw → Option Operator → Step
  | 0, words, _ => return (false, words)
  | depth + 1, words, first => do
    let (a, words) ← conjunction depth words first
    if lex words.tail == some .or then
      let rest := words.drop 2
      let (b, words) ← disjunction depth rest (lex rest)
      return (a || b, words)
    else return (a, words)

/-- Works out a conjunction. -/
def conjunction : Nat → List Raw → Option Operator → Step
  | 0, words, _ => return (false, words)
  | depth + 1, words, first => do
    let (a, words) ← negation depth words first
    if lex words.tail == some .and then
      let rest := words.drop 2
      let (b, words) ← conjunction depth rest (lex rest)
      return (a && b, words)
    else return (a, words)

/-- Works out a negation. -/
def negation : Nat → List Raw → Option Operator → Step
  | 0, words, _ => return (false, words)
  | depth + 1, words, first => do
    if first ≠ some .not then primary depth words first
    else
      let rest := words.tail
      if rest.isEmpty then return (true, words)
      let (a, words) ← negation depth rest (lex rest)
      return (!a, words)

/-- Works out a condition without operators between conditions. -/
def primary : Nat → List Raw → Option Operator → Step
  | 0, words, _ => return (false, words)
  | depth + 1, words, first => do
    match first, words with
    | none, [] => return (false, words)
    | some .opening, _ :: rest =>
      let inner := lex rest
      if inner = some .closing then return (false, rest)
      else
        let (a, words) ← disjunction depth rest inner
        if lex words.tail ≠ some .closing then throw .noClosing
        return (a, words.tail)
    | some (.unary operator), text :: rest =>
      match rest with
      | [] => throw (.missingArgument text)
      | word :: _ => return (← askUnary operator word, rest)
    | _, word :: rest =>
      match lex rest with
      | some (.binary operator) =>
        match rest with
        | _ :: second :: _ => return (← askBinary operator word second, rest.tail)
        | _ => throw (.missingArgument (rest.headD []))
      | _ => return (!word.isEmpty, words)
    | some _, [] => return (false, words)

end

/-- Works out words behind which nothing may be left. -/
def whole (words : List Raw) (first : Option Operator) : Check Bool := do
  let (a, words) ← disjunction (8 * words.length + 8) words first
  match words with
  | word :: next :: _ => throw (.unexpected word next)
  | _ => return a

/-- Works out a condition. With three or four words it is decided by how many they are what they
mean. -/
def evaluate (negated : Bool) : Nat → List Raw → Check Bool
  | 0, _ => return false
  | _, [] => return negated
  | depth + 1, words => do
    let plain : Check Bool := do return (← whole words (lex words)) != negated
    match words with
    | [a, operator, c] =>
      if operator? operator matches some (.binary _) then
        return (← whole words none) != negated
      else if a == ['('] && c == [')'] then return (← whole [operator] (lex [operator])) != negated
      else if a == ['!'] then evaluate (!negated) depth [operator, c]
      else plain
    | [a, b, c, d] =>
      if a == ['('] && d == [')'] then return (← whole [b, c] (lex [b, c])) != negated
      else if a == ['!'] then evaluate (!negated) depth [b, c, d]
      else plain
    | _ => plain

end Condition
end Judge.Host
