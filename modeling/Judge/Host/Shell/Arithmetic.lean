import Judge.Host.Numeral
import Judge.Host.Shell.Session

/-!
Expressions with whole numbers of 64 bits. They are worked out while they are read, from left to
right; what a condition leaves out is read without effect.
-/

namespace Judge.Host.Shell

namespace Arithmetic

/-- Operators with two operands. -/
inductive Operator where
  | times
  | divide
  | remainder
  | plus
  | minus
  | shiftLeft
  | shiftRight
  | less
  | atMost
  | greater
  | atLeast
  | equal
  | different
  | bitAnd
  | bitXor
  | bitOr
  deriving DecidableEq, Repr

/-- How strongly operands are tied, 0 for the strongest tie. -/
def Operator.rank : Operator → Nat
  | .times | .divide | .remainder => 0
  | .plus | .minus => 1
  | .shiftLeft | .shiftRight => 2
  | .less | .atMost | .greater | .atLeast => 3
  | .equal | .different => 4
  | .bitAnd => 5
  | .bitXor => 6
  | .bitOr => 7

/-- A rank behind all operators. -/
def lastRank : Nat := 8

/-- A token of an expression. -/
inductive Token where
  | number (value : Int)
  | name (name : Raw)
  | operator (operator : Operator)
  /-- An assignment, with the operator that is applied first. -/
  | assign (operator : Option Operator)
  | and
  | or
  | not
  | complement
  | question
  | colon
  | opening
  | closing
  | bad
  deriving DecidableEq, Repr

/-- The spellings of tokens, longer ones first. -/
def spellings : List (String × Token) :=
  [("<<=", .assign (some .shiftLeft)), (">>=", .assign (some .shiftRight)),
    ("*=", .assign (some .times)), ("/=", .assign (some .divide)),
    ("%=", .assign (some .remainder)), ("+=", .assign (some .plus)),
    ("-=", .assign (some .minus)), ("&=", .assign (some .bitAnd)),
    ("^=", .assign (some .bitXor)), ("|=", .assign (some .bitOr)),
    ("<<", .operator .shiftLeft), (">>", .operator .shiftRight), ("<=", .operator .atMost),
    (">=", .operator .atLeast), ("==", .operator .equal), ("!=", .operator .different),
    ("&&", .and), ("||", .or), ("*", .operator .times), ("/", .operator .divide),
    ("%", .operator .remainder), ("+", .operator .plus), ("-", .operator .minus),
    ("<", .operator .less), (">", .operator .greater), ("&", .operator .bitAnd),
    ("^", .operator .bitXor), ("|", .operator .bitOr), ("=", .assign none), ("!", .not),
    ("~", .complement), ("?", .question), (":", .colon), ("(", .opening), (")", .closing)]

/-- The token in front of a text, with how long its spelling is. -/
def spelled? (text : Raw) : Option (Token × Nat) :=
  (spellings.find? fun s => s.1.toList.isPrefixOf text).map fun s => (s.2, s.1.length)

/-- The tokens of a text. -/
def tokens : Nat → Raw → List Token
  | 0, _ => []
  | _, [] => []
  | steps + 1, c :: rest =>
    if c == ' ' || c == '\t' || c == '\n' then tokens steps rest
    else if isNameStart c then
      .name (c :: rest.takeWhile isNameChar) :: tokens steps (rest.dropWhile isNameChar)
    else
      match if c.isDigit then Numeral.read? 0 (c :: rest) else none with
      | some result => .number result.value :: tokens steps result.rest
      | none =>
        match spelled? (c :: rest) with
        | some (token, length) => token :: tokens steps (rest.drop (length - 1))
        | none => [.bad]

/-- A truth value as a number. -/
def truth (b : Bool) : Int := if b then 1 else 0

/-- The bits of a number. -/
def bits (n : Int) : UInt64 := UInt64.ofNat (n % 18446744073709551616).toNat

/-- The number that bits stand for. -/
def ofBits (bits : UInt64) : Int := Numeral.wrap bits.toNat

/-- Applies an operator, none for a division by zero. -/
def apply (operator : Operator) (a b : Int) : Option Int :=
  match operator with
  | .times => some (Numeral.wrap (a * b))
  | .divide => if b = 0 then none else some (Numeral.wrap (Int.tdiv a b))
  | .remainder => if b = 0 then none else some (Int.tmod a b)
  | .plus => some (Numeral.wrap (a + b))
  | .minus => some (Numeral.wrap (a - b))
  | .shiftLeft => some (ofBits (bits a <<< (bits b)))
  | .shiftRight => some (a.shiftRight (bits b % 64).toNat)
  | .less => some (truth (a < b))
  | .atMost => some (truth (a ≤ b))
  | .greater => some (truth (b < a))
  | .atLeast => some (truth (b ≤ a))
  | .equal => some (truth (a = b))
  | .different => some (truth (a ≠ b))
  | .bitAnd => some (ofBits (bits a &&& bits b))
  | .bitXor => some (ofBits (bits a ^^^ bits b))
  | .bitOr => some (ofBits (bits a ||| bits b))

/-- A value and the tokens behind it. -/
abbrev Step := Sh (Int × List Token)

/-- Complains about an expression. -/
def fail {α : Type} (text : Raw) (reason : String) : Sh α :=
  Sh.fail ("arithmetic expression: ".toList ++ reason.toList ++ ": \x22".toList ++ text ++ ['\x22'])

/-- The number that a variable holds; one without a value counts as zero. -/
def lookup (name : Raw) : Sh Int := do
  let value := ((← get).value? name).getD []
  match Numeral.whole? 0 value with
  | some n => return n
  | none => if value.all isBlank then return 0 else Sh.badNumber value

/-- Applies an operator, or complains. -/
def applyIn (text : Raw) (operator : Operator) (a b : Int) : Sh Int :=
  match apply operator a b with
  | some n => pure n
  | none => fail text "division by zero"

mutual

/-- Works out an expression that may be an assignment. -/
def assignment (text : Raw) (quiet : Bool) : Nat → List Token → Step
  | 0, _ => fail text "expecting primary"
  | depth + 1, tokens => do
    match tokens with
    | .name name :: .assign operator :: rest =>
      let (value, rest) ← assignment text quiet depth rest
      if quiet then return (value, rest)
      let value ← match operator with
        | none => pure value
        | some operator => applyIn text operator (← lookup name) value
      Sh.assign name (Numeral.write value) false
      return (value, rest)
    | _ => condition text quiet depth tokens

/-- Works out a condition. -/
def condition (text : Raw) (quiet : Bool) : Nat → List Token → Step
  | 0, _ => fail text "expecting primary"
  | depth + 1, tokens => do
    let (a, rest) ← disjunction text quiet depth tokens
    match rest with
    | .question :: rest =>
      let (b, rest) ← assignment text (quiet || a == 0) depth rest
      match rest with
      | .colon :: rest =>
        let (c, rest) ← condition text (quiet || a != 0) depth rest
        return (if a ≠ 0 then b else c, rest)
      | _ => fail text "expecting ':'"
    | _ => return (a, rest)

/-- Works out a disjunction. -/
def disjunction (text : Raw) (quiet : Bool) : Nat → List Token → Step
  | 0, _ => fail text "expecting primary"
  | depth + 1, tokens => do
    let (a, rest) ← conjunction text quiet depth tokens
    match rest with
    | .or :: rest =>
      let (b, rest) ← disjunction text (quiet || a != 0) depth rest
      return (truth (a ≠ 0 ∨ b ≠ 0), rest)
    | _ => return (a, rest)

/-- Works out a conjunction. -/
def conjunction (text : Raw) (quiet : Bool) : Nat → List Token → Step
  | 0, _ => fail text "expecting primary"
  | depth + 1, tokens => do
    let (a, rest) ← operation text quiet depth tokens
    match rest with
    | .and :: rest =>
      let (b, rest) ← conjunction text (quiet || a == 0) depth rest
      return (truth (a ≠ 0 ∧ b ≠ 0), rest)
    | _ => return (a, rest)

/-- Works out operands with operators between them. -/
def operation (text : Raw) (quiet : Bool) : Nat → List Token → Step
  | 0, _ => fail text "expecting primary"
  | depth + 1, tokens => do
    let (a, rest) ← primary text quiet depth tokens
    match rest with
    | .operator operator :: rest => operationFrom text quiet a operator lastRank depth rest
    | _ => return (a, rest)

/-- Goes on behind an operator, as long as operators rank in front of a limit. -/
def operationFrom (text : Raw) (quiet : Bool) (a : Int) (operator : Operator) (limit : Nat) :
    Nat → List Token → Step
  | 0, _ => fail text "expecting primary"
  | depth + 1, tokens => do
    let (b, rest) ← primary text quiet depth tokens
    let (b, rest) ← match rest with
      | .operator second :: more =>
        if second.rank < operator.rank then
          operationFrom text quiet b second operator.rank depth more
        else pure (b, rest)
      | _ => pure (b, rest)
    let a ← if quiet then pure b else applyIn text operator a b
    match rest with
    | .operator second :: more =>
      if second.rank < limit then operationFrom text quiet a second limit depth more
      else return (a, rest)
    | _ => return (a, rest)

/-- Works out an operand. -/
def primary (text : Raw) (quiet : Bool) : Nat → List Token → Step
  | 0, _ => fail text "expecting primary"
  | depth + 1, tokens => do
    match tokens with
    | .opening :: rest =>
      let (a, rest) ← assignment text quiet depth rest
      match rest with
      | .closing :: rest => return (a, rest)
      | _ => fail text "expecting ')'"
    | .number n :: rest => return (n, rest)
    | .name name :: rest =>
      if quiet then return (0, rest)
      return (← lookup name, rest)
    | .operator .plus :: rest => primary text quiet depth rest
    | .operator .minus :: rest =>
      let (a, rest) ← primary text quiet depth rest
      return (Numeral.wrap (-a), rest)
    | .not :: rest =>
      let (a, rest) ← primary text quiet depth rest
      return (truth (a = 0), rest)
    | .complement :: rest =>
      let (a, rest) ← primary text quiet depth rest
      return (-a - 1, rest)
    | _ => fail text "expecting primary"

end

/-- The value of an expression. -/
def evaluate (text : Raw) : Sh Int := do
  let tokens := tokens (text.length + 1) text
  let (value, rest) ← assignment text false (16 * tokens.length + 16) tokens
  if rest.isEmpty then return value else fail text "expecting EOF"

end Arithmetic
end Judge.Host.Shell
