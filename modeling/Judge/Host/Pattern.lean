import Judge.Text.Raw

/-!
Patterns. A pattern is a text in which each character is quoted or not; those that are not quoted can
stand for any characters, for one, or for one of a set. A backslash quotes the character behind it.
-/

namespace Judge.Host

/-- A text in which each character is quoted or not. -/
abbrev Pattern := List (Char × Bool)

namespace Pattern

/-- A pattern with the backslashes that quote taken away. -/
def unescape : Pattern → Pattern
  | ('\\', false) :: (c, _) :: rest => (c, true) :: unescape rest
  | entry :: rest => entry :: unescape rest
  | [] => []

/-- The text of a pattern. -/
def text (pattern : Pattern) : Raw := pattern.map (·.1)

/-- A piece of a pattern. -/
inductive Piece where
  /-- Any characters. -/
  | many
  | one (fits : Char → Bool)

/-- The classes of characters by name. -/
def classes : List (String × (Char → Bool)) :=
  let graph (c : Char) : Bool := '!' ≤ c && c ≤ '~'
  [("alnum", Char.isAlphanum), ("alpha", Char.isAlpha), ("blank", fun c => c == ' ' || c == '\t'),
    ("cntrl", fun c => c.toNat < 32 || c.toNat == 127), ("digit", Char.isDigit), ("graph", graph),
    ("lower", Char.isLower), ("print", fun c => c == ' ' || graph c),
    ("punct", fun c => graph c && !c.isAlphanum),
    ("space", fun c => c == ' ' || ('\t' ≤ c && c ≤ '\r')), ("upper", Char.isUpper),
    ("xdigit", fun c => c.isDigit || ('a' ≤ c && c ≤ 'f') || ('A' ≤ c && c ≤ 'F'))]

/-- The name of a class in front, behind its opening colon, and what follows its end. -/
def className : Pattern → Raw → Option (Raw × Pattern)
  | (':', false) :: (']', false) :: rest, name => some (name.reverse, rest)
  | (c, _) :: rest, name => className rest (c :: name)
  | [], _ => none

/-- The class in front, behind its opening bracket. -/
def class? : Pattern → Option ((Char → Bool) × Pattern)
  | (':', false) :: rest => do
    let (name, rest) ← className rest []
    let (_, fits) ← classes.find? fun c => c.1.toList == name
    return (fits, rest)
  | _ => none

/-- The number of a byte with a sign, by which ranges are ordered. -/
def signed (c : Char) : Int := if c.toNat < 128 then c.toNat else (c.toNat : Int) - 256

/-- The set behind an opening bracket, and what follows its end; none if it has no end. A bracket
that comes first does not end it. -/
def set? (first : Bool) (fits : Char → Bool) : Nat → Pattern → Option ((Char → Bool) × Pattern)
  | 0, _ => none
  | steps + 1, pattern =>
    match pattern with
    | [] => none
    | (c, quoted) :: rest =>
      if c == ']' && !quoted && !first then some (fits, rest)
      else
        match if c == '[' && !quoted then class? rest else none with
        | some (inClass, rest) => set? false (fun x => fits x || inClass x) steps rest
        | none =>
          match rest with
          | ('-', false) :: (upper, quotedUpper) :: more =>
            if upper == ']' && !quotedUpper then
              set? false (fun x => fits x || x == c) steps rest
            else
              set? false (fun x => fits x || (signed c ≤ signed x && signed x ≤ signed upper))
                steps more
          | _ => set? false (fun x => fits x || x == c) steps rest

/-- The set behind an opening bracket, negated if it starts so. -/
def bracket? (pattern : Pattern) : Option ((Char → Bool) × Pattern) :=
  let steps := pattern.length + 1
  match pattern with
  | ('!', false) :: rest =>
    (set? true (fun _ => false) steps rest).map fun (fits, rest) => ((!fits ·), rest)
  | _ => set? true (fun _ => false) steps pattern

/-- The pieces of a pattern. -/
def pieces : Nat → Pattern → List Piece
  | 0, _ => []
  | _, [] => []
  | steps + 1, (c, quoted) :: rest =>
    if quoted then .one (· == c) :: pieces steps rest
    else if c == '*' then .many :: pieces steps rest
    else if c == '?' then .one (fun _ => true) :: pieces steps rest
    else
      match if c == '[' then bracket? rest else none with
      | some (fits, rest) => .one fits :: pieces steps rest
      | none => .one (· == c) :: pieces steps rest

/-- A text and what is left of it when characters in front are dropped. -/
def suffixes : Raw → List Raw
  | [] => [[]]
  | c :: rest => (c :: rest) :: suffixes rest

/-- Whether pieces make up a text. -/
def fit : List Piece → Raw → Bool
  | [], text => text.isEmpty
  | .one fits :: rest, c :: text => fits c && fit rest text
  | .one _ :: _, [] => false
  | .many :: rest, text => if rest.isEmpty then true else (suffixes text).any (fit rest)

/-- Whether a pattern fits a text. -/
def fits (pattern : Pattern) (text : Raw) : Bool :=
  let pattern := pattern.unescape
  fit (pieces pattern.length pattern) text

/-- Whether a bracket is closed before a separator. -/
def closesBracket : Pattern → Bool
  | (c, _) :: rest =>
    if c == '/' then false
    else
      match rest with
      | (']', false) :: _ => true
      | _ => closesBracket rest
  | [] => false

/-- Whether a pattern can fit more than its own text. -/
def hasWildcard : Pattern → Bool
  | [] => false
  | (c, quoted) :: rest =>
    (!quoted && (c == '*' || c == '?' || (c == '[' && closesBracket (match rest with
      | ('!', false) :: rest => rest
      | rest => rest)))) || hasWildcard rest

/-- The parts of a pattern between separators. -/
def split : Pattern → List Pattern
  | [] => [[]]
  | (c, quoted) :: rest =>
    if c == '/' then [] :: split rest
    else match split rest with
      | [] => [[(c, quoted)]]
      | part :: parts => ((c, quoted) :: part) :: parts

/-- What is left of a text when the shortest or longest front or end that fits is cut off. -/
def trim (pattern : Pattern) (front longest : Bool) (text : Raw) : Raw :=
  let pattern := pattern.unescape
  let pieces := pieces pattern.length pattern
  let cuts := List.range (text.length + 1)
  let cuts := if longest == front then cuts.reverse else cuts
  match cuts.find? fun n => fit pieces (if front then text.take n else text.drop n) with
  | none => text
  | some n => if front then text.drop n else text.take n

example : fits ("a*.[ch]".toList.map (·, false)) "alpha.c".toList = true := by decide

example : trim ("*/".toList.map (·, false)) true true "a/b/c".toList = "c".toList := by decide

end Pattern
end Judge.Host
