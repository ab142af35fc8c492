import Judge.Host.Expression
import Judge.Host.Utility.Words

/-!
Calculations with texts and whole numbers. An operator binds its operands the closer the further
below it stands: or, and, comparisons, sums, products, fitting an expression.
-/

namespace Judge.Host.Utility

namespace Calculation

/-- Why there is no result. -/
inductive Fault where
  | noOperand
  | unexpected (word : Raw)
  | unexpectedClosing
  | missingAfter (word : Raw)
  | notClosed (word : Raw)
  | noNumber
  | divisionByZero
  | badExpression (fault : Expression.Fault)

/-- The wording of each fault. -/
def Fault.message : Fault → Raw
  | .noOperand => "missing operand".toList
  | .unexpected word => "syntax error: unexpected argument ".toList ++ quoted word
  | .unexpectedClosing => "syntax error: unexpected ')'".toList
  | .missingAfter word => "syntax error: missing argument after ".toList ++ quoted word
  | .notClosed word => "syntax error: expecting ')' after ".toList ++ quoted word
  | .noNumber => "non-integer argument".toList
  | .divisionByZero => "division by zero".toList
  | .badExpression fault => fault.message.toList

/-- The words that are left, and the last one that was taken. -/
structure State where
  words : List Raw
  last : Raw := []

/-- A part of a calculation. -/
abbrev Calc (α : Type) := ExceptT Fault (StateM State) α

/-- The number that a text is. -/
def number? (text : Raw) : Option Int :=
  match text with
  | '-' :: rest => (digits? rest).map fun n => -(n : Int)
  | digits => (digits? digits).map fun n => (n : Int)

/-- Whether a text counts as false. -/
def isFalse (text : Raw) : Bool :=
  text.isEmpty || ((match text with
    | '-' :: rest => rest
    | rest => rest).all (· == '0') && text != ['-'])

/-- A truth value as text. -/
def truth (holds : Bool) : Raw := if holds then ['1'] else ['0']

/-- Takes the next word. -/
def take : Calc Raw := do
  let s ← get
  match s.words with
  | [] => throw (.missingAfter s.last)
  | word :: rest =>
    set { words := rest, last := word : State }
    return word

/-- Takes the next word if it is one of some. -/
def taken? (words : List String) : Calc (Option String) := do
  let s ← get
  match s.words with
  | [] => return none
  | word :: rest =>
    match words.find? (·.toList == word) with
    | none => return none
    | some found =>
      set { words := rest, last := word : State }
      return some found

/-- What of a text an expression fits from its start on. -/
def fitted (text pattern : Raw) : Except Fault Raw := do
  match Expression.read {} pattern with
  | .error fault => throw (.badExpression fault)
  | .ok (expression, groups) =>
    match expression.longest? { rest := text } with
    | some place => return if 0 < groups then (place.groups.lookup 1).getD [] else showNat place.position
    | none => return if 0 < groups then [] else ['0']

/-- Compares two values, as numbers if they are some. -/
def compared (operator : String) (a b : Raw) : Bool :=
  let (less, equal) := match number? a, number? b with
    | some x, some y => (decide (x < y), decide (x = y))
    | _, _ => (decide (a < b), decide (a = b))
  match operator with
  | "<" => less
  | "<=" => less || equal
  | "=" | "==" => equal
  | "!=" => !equal
  | ">=" => !less
  | _ => !less && !equal

/-- Calculates with two numbers. -/
def calculated (operator : String) (a b : Raw) : Except Fault Raw :=
  match number? a, number? b with
  | some x, some y =>
    match operator with
    | "+" => .ok (Numeral.write (x + y))
    | "-" => .ok (Numeral.write (x - y))
    | "*" => .ok (Numeral.write (x * y))
    | "/" => if y = 0 then .error .divisionByZero else .ok (Numeral.write (x.tdiv y))
    | _ => if y = 0 then .error .divisionByZero else .ok (Numeral.write (x.tmod y))
  | _, _ => .error .noNumber

/-- The operators by how closely they bind. -/
def levels : List (List String) :=
  [["|"], ["&"], ["<", "<=", "=", "==", "!=", ">=", ">"], ["+", "-"], ["*", "/", "%"], [":"]]

/-- What an operator makes of two values. -/
def applied (operator : String) (a b : Raw) : Except Fault Raw :=
  match operator with
  | "|" => .ok (if !isFalse a then a else if !isFalse b then b else ['0'])
  | "&" => .ok (if !isFalse a && !isFalse b then a else ['0'])
  | ":" => fitted a b
  | "+" | "-" | "*" | "/" | "%" => calculated operator a b
  | operator => .ok (truth (compared operator a b))

/-- The part of a text from a position on, with a length. -/
def part (text start size : Raw) : Raw :=
  match number? start, number? size with
  | some p, some n => if p < 1 || n < 1 then [] else (text.drop (p.toNat - 1)).take n.toNat
  | _, _ => []

mutual

/-- Works out operators that bind as closely as the first of some levels. What does not count is not
calculated. -/
def level : Nat → Bool → List (List String) → Calc Raw
  | 0, _, _ => return []
  | limit + 1, counts, [] => operand limit counts
  | limit + 1, counts, operators :: closer => do
    let first ← level limit counts closer
    chain limit counts operators closer first

/-- Goes on with operators behind a value. -/
def chain : Nat → Bool → List String → List (List String) → Raw → Calc Raw
  | 0, _, _, _, value => return value
  | limit + 1, counts, operators, closer, value => do
    match ← taken? operators with
    | none => return value
    | some operator =>
      let matters := counts && !(operator == "|" && !isFalse value) &&
        !(operator == "&" && isFalse value)
      let second ← level limit matters closer
      let value ← if counts && (matters || operator == "|" || operator == "&") then
          match applied operator value second with
          | .ok value => pure value
          | .error fault => throw fault
        else pure value
      chain limit counts operators closer value

/-- Works out an operand. -/
def operand : Nat → Bool → Calc Raw
  | 0, _ => return []
  | limit + 1, counts => do
    match ← taken? ["+", "length", "match", "index", "substr", "(", ")"] with
    | none => take
    | some "+" => take
    | some "length" => return showNat (← operand limit counts).length
    | some "match" =>
      let text ← operand limit counts
      match fitted text (← operand limit counts) with
      | .ok value => return value
      | .error fault => throw fault
    | some "index" =>
      let text ← operand limit counts
      let characters ← operand limit counts
      return showNat ((text.findIdx? (characters.contains ·)).map (· + 1) |>.getD 0)
    | some "substr" =>
      let text ← operand limit counts
      let start ← operand limit counts
      return part text start (← operand limit counts)
    | some "(" =>
      let value ← level limit counts levels
      match ← taken? [")"] with
      | some _ => return value
      | none =>
        let s ← get
        match s.words with
        | [] => throw (.notClosed s.last)
        | word :: _ => throw (.unexpected word)
    | some _ => throw .unexpectedClosing

end

/-- Works out all words. -/
def whole (words : List Raw) : Except Fault Raw := do
  if words.isEmpty then throw .noOperand
  let (result, s) := (level (16 * words.length + 64) true levels).run { words }
  let value ← result
  match s.words with
  | [] => return value
  | word :: _ => throw (.unexpected word)

end Calculation

/-- Writes the result of a calculation. -/
def expr (arguments : List Raw) : Program := do
  let name := arguments.headD []
  let words := match arguments.drop 1 with
    | ['-', '-'] :: rest => rest
    | rest => rest
  match Calculation.whole words with
  | .ok value => putAll name (value ++ ['\n']) (if Calculation.isFalse value then 1 else 0)
  | .error .noOperand => missingOperand name 2
  | .error fault =>
    complain name fault.message
    return 2

end Judge.Host.Utility
