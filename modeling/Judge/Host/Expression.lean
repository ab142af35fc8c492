import Judge.Host.Numeral
import Judge.Host.Pattern

/-!
Regular expressions, in the basic and the extended way of writing them. Of the parts of a line that an
expression fits from a place on, the longest counts.
-/

namespace Judge.Host

/-- A regular expression. -/
inductive Expression where
  | empty
  | one (fits : Char → Bool)
  | lineStart
  | lineEnd
  | wordStart
  | wordEnd
  | wordEdge (holds : Bool)
  | sequence (first second : Expression)
  | either (first second : Expression)
  | many (least : Nat) (most : Option Nat) (body : Expression)
  | group (number : Nat) (body : Expression)
  /-- What a group stands for once more. -/
  | again (number : Nat)

namespace Expression

/-- Why a text is no expression. -/
inductive Fault where
  | noEndOfSet
  | noEndOfGroup
  | noStartOfGroup
  | noEndOfCount
  | badCount
  | badClass
  | badRange
  | badReference
  | loneBackslash
  | nothingToRepeat
  deriving DecidableEq, Repr

/-- The wording of each fault. -/
def Fault.message : Fault → String
  | .noEndOfSet => "Invalid regular expression"
  | .noEndOfGroup => "Unmatched ( or \\("
  | .noStartOfGroup => "Unmatched ) or \\)"
  | .noEndOfCount => "Unmatched \\\x7b"
  | .badCount => "Invalid content of \\\x7b\\\x7d"
  | .badClass => "Invalid character class name"
  | .badRange => "Invalid range end"
  | .badReference => "Invalid back reference"
  | .loneBackslash => "Trailing backslash"
  | .nothingToRepeat => "Invalid preceding regular expression"

/-- How expressions are written. -/
structure Dialect where
  /-- Whether the operators need no backslash. -/
  extended : Bool := false
  ignoresCase : Bool := false

/-- Whether a character belongs to a word. -/
def isWord (c : Char) : Bool := c.isAlphanum || c == '_'

/-- A character in any of its cases, if they do not matter. -/
def Dialect.same (d : Dialect) (fits : Char → Bool) : Expression :=
  .one (if d.ignoresCase then fun c => fits c.toLower || fits c.toUpper else fits)

/-- What is being read: the rest and how many groups were opened. -/
structure Reading where
  rest : Raw
  groups : Nat := 0
  /-- Whether an expression starts here. -/
  isFirst : Bool := true

/-- What characters mean in front of a text. -/
inductive Sign where
  | opening
  | closing
  | bar
  | star
  | plus
  | question
  | counted
  | backslash (c : Char)
  | plain (c : Char)
  | stray
  | nothing
  deriving DecidableEq

/-- The sign in front and what follows it. -/
def Dialect.sign (d : Dialect) : Raw → Sign × Raw
  | [] => (.nothing, [])
  | ['\\'] => (.stray, [])
  | '\\' :: c :: rest =>
    if d.extended then (.backslash c, rest)
    else match c with
      | '(' => (.opening, rest)
      | ')' => (.closing, rest)
      | '|' => (.bar, rest)
      | '+' => (.plus, rest)
      | '?' => (.question, rest)
      | '\x7b' => (.counted, rest)
      | c => (.backslash c, rest)
  | '*' :: rest => (.star, rest)
  | c :: rest =>
    if !d.extended then (.plain c, rest)
    else match c with
      | '(' => (.opening, rest)
      | ')' => (.closing, rest)
      | '|' => (.bar, rest)
      | '+' => (.plus, rest)
      | '?' => (.question, rest)
      | '\x7b' => (.counted, rest)
      | c => (.plain c, rest)

/-- The bounds of a count, behind its opening, and what follows it. -/
def Dialect.count (d : Dialect) (text : Raw) : Except Fault (Nat × Option Nat × Raw) := do
  let number (text : Raw) : Option Nat × Raw :=
    let (n, rest) := Numeral.digits 10 text 0
    (if rest.length = text.length then none else some n, rest)
  let (least, rest) := number text
  let (most, rest) ← match rest with
    | ',' :: rest => pure (number rest)
    | rest =>
      if least.isNone then throw (if rest.isEmpty then .noEndOfCount else .badCount)
      else pure (least, rest)
  let rest ← match d.extended, rest with
    | true, '\x7d' :: rest => pure rest
    | false, '\\' :: '\x7d' :: rest => pure rest
    | _, [] => throw .noEndOfCount
    | _, _ => throw .badCount
  if most.any (· < least.getD 0) || 32767 < (most.getD 0) then throw .badCount
  return (least.getD 0, most, rest)

/-- What is wrong with a set of characters, behind its opening. -/
def setFault (text : Raw) : Option Fault :=
  let pattern : Pattern := text.map (·, false)
  let rec go : Nat → Bool → Pattern → Option Fault
    | 0, _, _ => none
    | _, _, [] => none
    | steps + 1, first, (c, _) :: rest =>
      if c == ']' && !first then none
      else if c == '[' && rest.head? == some (':', false) then
        match Pattern.className (rest.drop 1) [], Pattern.class? rest with
        | some _, none => some .badClass
        | _, some (_, rest) => go steps false rest
        | none, none => go steps false rest
      else match rest with
        | ('-', _) :: (upper, _) :: more =>
          if upper == ']' then go steps false rest
          else if upper.toNat < c.toNat then some .badRange
          else go steps false more
        | _ => go steps false rest
  go (text.length + 1) true pattern

/-- The set of characters behind its opening, and what follows it. -/
def Dialect.set (d : Dialect) (text : Raw) : Except Fault (Expression × Raw) := do
  let (negated, body) := match text with
    | '^' :: rest => (true, rest)
    | rest => (false, rest)
  if let some fault := setFault body then throw fault
  match Pattern.set? true (fun _ => false) (body.length + 1) (body.map (·, false)) with
  | none => throw .noEndOfSet
  | some (fits, rest) =>
    let fits := if d.ignoresCase then fun c : Char => fits c.toLower || fits c.toUpper else fits
    return (.one (fun c => fits c != negated), rest.text)

/-- What a backslash and a character mean. -/
def Dialect.escaped (d : Dialect) (groups : Nat) (c : Char) : Except Fault Expression :=
  match c with
  | 'w' => .ok (.one isWord)
  | 'W' => .ok (.one (!isWord ·))
  | 's' => .ok (.one isBlank)
  | 'S' => .ok (.one (!isBlank ·))
  | '<' => .ok .wordStart
  | '>' => .ok .wordEnd
  | 'b' => .ok (.wordEdge true)
  | 'B' => .ok (.wordEdge false)
  | c =>
    if '1' ≤ c && c ≤ '9' then
      let n := c.toNat - 48
      if n ≤ groups then .ok (.again n) else .error .badReference
    else .ok (d.same (· == c))

/-- Repeats an expression as the signs behind it say. -/
def Dialect.repeated (d : Dialect) : Nat → Expression → Raw → Except Fault (Expression × Raw)
  | 0, body, text => .ok (body, text)
  | steps + 1, body, text =>
    match d.sign text with
    | (.star, rest) => repeated d steps (.many 0 none body) rest
    | (.plus, rest) => repeated d steps (.many 1 none body) rest
    | (.question, rest) => repeated d steps (.many 0 (some 1) body) rest
    | (.counted, rest) =>
      match d.count rest with
      | .ok (least, most, rest) => repeated d steps (.many least most body) rest
      | .error fault => if d.extended then .ok (body, text) else .error fault
    | _ => .ok (body, text)

/-- What is read from a text. -/
abbrev Reader := Reading → Except Fault (Expression × Reading)

/-- Whether a text ends an alternative. -/
def Dialect.endsHere (d : Dialect) (text : Raw) : Bool :=
  match (d.sign text).1 with
  | .nothing | .closing | .bar => true
  | _ => false

mutual

/-- Reads alternatives. -/
def Dialect.alternatives (d : Dialect) : Nat → Bool → Reader
  | 0, _, r => .ok (.empty, r)
  | steps + 1, isInner, r => do
    let (first, r) ← Dialect.parts d steps isInner .empty { r with isFirst := true }
    match d.sign r.rest with
    | (.bar, rest) =>
      let (second, r) ← Dialect.alternatives d steps isInner { r with rest }
      return (.either first second, r)
    | _ => return (first, r)

/-- Reads what follows one another. -/
def Dialect.parts (d : Dialect) : Nat → Bool → Expression → Reader
  | 0, _, found, r => .ok (found, r)
  | steps + 1, isInner, found, r => do
    match d.sign r.rest with
    | (.nothing, _) | (.bar, _) => return (found, r)
    | (.closing, rest) =>
      if isInner then return (found, r)
      else if d.extended then
        Dialect.parts d steps isInner (.sequence found (d.same (· == ')')))
          { r with rest, isFirst := false }
      else throw .noStartOfGroup
    | _ =>
      let (part, r) ← Dialect.part d steps r
      let (part, rest) ← d.repeated r.rest.length part r.rest
      Dialect.parts d steps isInner (.sequence found part) { r with rest }

/-- Reads a part that can be repeated. -/
def Dialect.part (d : Dialect) : Nat → Reader
  | 0, r => .ok (.empty, r)
  | steps + 1, r => do
    let plain (e : Expression) (rest : Raw) : Except Fault (Expression × Reading) :=
      .ok (e, { r with rest, isFirst := false })
    let unrepeated (c : Char) (rest : Raw) : Except Fault (Expression × Reading) :=
      if d.extended then .ok (.empty, { r with rest }) else plain (d.same (· == c)) rest
    match d.sign r.rest with
    | (.opening, rest) =>
      let number := r.groups + 1
      let (body, r) ← Dialect.alternatives d steps true { rest, groups := number }
      match d.sign r.rest with
      | (.closing, rest) =>
        return (.group number body, { r with rest, isFirst := false })
      | _ => throw .noEndOfGroup
    | (.stray, _) => throw .loneBackslash
    | (.backslash c, rest) => plain (← d.escaped r.groups c) rest
    | (.star, rest) => unrepeated '*' rest
    | (.plus, rest) => unrepeated '+' rest
    | (.question, rest) => unrepeated '?' rest
    | (.counted, rest) =>
      if d.extended then plain (d.same (· == '\x7b')) rest else throw .nothingToRepeat
    | (.plain '.', rest) => plain (.one (· != '\n')) rest
    | (.plain '[', rest) =>
      let (set, rest) ← d.set rest
      plain set rest
    | (.plain '^', rest) =>
      if d.extended then plain .lineStart rest
      else if r.isFirst then .ok (.lineStart, { r with rest })
      else plain (d.same (· == '^')) rest
    | (.plain '$', rest) =>
      if d.extended || d.endsHere rest then plain .lineEnd rest else plain (d.same (· == '$')) rest
    | (.plain c, rest) => plain (d.same (· == c)) rest
    | (_, rest) => .ok (.empty, { r with rest })

end

/-- Reads an expression. Gives it and how many groups it has. -/
def read (d : Dialect) (text : Raw) : Except Fault (Expression × Nat) := do
  let (expression, r) ← d.alternatives (4 * text.length + 4) false { rest := text }
  return (expression, r.groups)

/-- A place in a line. -/
structure Place where
  before : Option Char := none
  rest : Raw
  position : Nat := 0
  groups : List (Nat × Raw) := []

/-- Whether two characters next to each other are the edge of a word. -/
def Place.edge (p : Place) : Bool := p.before.any isWord != p.rest.head?.any isWord

/-- The place behind so many characters. -/
def Place.advance (p : Place) (n : Nat) : Place :=
  if n = 0 then p
  else { p with
    before := (p.rest.drop (n - 1)).head?
    rest := p.rest.drop n
    position := p.position + n }

/-- Places without those that were there before. -/
def distinct (places : List Place) : List Place :=
  (places.foldl (fun (seen, found) p =>
    if seen.contains p.position then (seen, found) else (p.position :: seen, p :: found))
    (([] : List Nat), ([] : List Place))).2.reverse

/-- The places that are reached by steps, those by more steps first. -/
def reach (step : Place → List Place) (least : Nat) (most : Option Nat) :
    Nat → Nat → List Place → List Place → List Place
  | 0, _, _, found => found
  | limit + 1, done, current, found =>
    let found := if least ≤ done then current ++ found else found
    if current.isEmpty || most == some done then found
    else
      let next := distinct (current.flatMap fun p =>
        (step p).filter fun q => q.position != p.position || done < least)
      reach step least most limit (done + 1) next found

/-- The places where what an expression fits from a place on ends. -/
def ends : Expression → Place → List Place
  | .empty, p => [p]
  | .one fits, p => if p.rest.head?.any fits then [p.advance 1] else []
  | .lineStart, p => if p.position = 0 then [p] else []
  | .lineEnd, p => if p.rest.isEmpty then [p] else []
  | .wordStart, p => if p.edge && p.rest.head?.any isWord then [p] else []
  | .wordEnd, p => if p.edge && p.before.any isWord then [p] else []
  | .wordEdge holds, p => if p.edge == holds then [p] else []
  | .sequence first second, p => distinct ((first.ends p).flatMap second.ends)
  | .either first second, p => distinct (first.ends p ++ second.ends p)
  | .many least most body, p =>
    distinct (reach body.ends least most (p.rest.length + least + 2) 0 [p] [])
  | .group number body, p =>
    (body.ends p).map fun q =>
      { q with groups :=
          (number, p.rest.take (q.position - p.position)) :: q.groups.filter (·.1 != number) }
  | .again number, p =>
    match p.groups.lookup number with
    | some text => if text.isPrefixOf p.rest then [p.advance text.length] else []
    | none => []

/-- The end of the longest part of a line that an expression fits from a place on. -/
def longest? (e : Expression) (p : Place) : Option Place :=
  (e.ends p).foldl (fun best q =>
    match best with
    | none => some q
    | some b => if b.position < q.position then some q else some b) none

/-- The first part of a line that an expression fits, from a place on: where it starts and ends. -/
def search (accepts : Place → Place → Bool) (e : Expression) :
    Nat → Place → Option (Place × Place)
  | 0, _ => none
  | limit + 1, p =>
    match e.longest? p with
    | some q => if accepts p q then some (p, q) else next limit p
    | none => next limit p
where
  /-- Looks on one character later. -/
  next (limit : Nat) (p : Place) : Option (Place × Place) :=
    if p.rest.isEmpty then none else search accepts e limit (p.advance 1)

end Expression
end Judge.Host
