import Judge.Host.Shell.Arithmetic
import Judge.Host.Shell.Field

/-!
Expanding words: tildes, parameters, the output of commands and the values of expressions.
-/

namespace Judge.Host.Shell

/-- How a word is expanded. -/
structure Manner where
  /-- Whether it is split into fields. -/
  full : Bool := false
  /-- Whether a tilde may stand in front. -/
  tilde : Bool := false
  /-- Whether tildes may stand behind an equals sign and behind colons. -/
  assignment : Bool := false
  /-- Whether the word stands in for a value that is split. -/
  inWord : Bool := false
  quoted : Bool := false

namespace Expansion

/-- The home directories that the host knows. -/
def homes : List (String × String) :=
  [("root", "/root"), ("daemon", "/usr/sbin"), ("bin", "/bin"), ("sys", "/dev"), ("sync", "/bin"),
    ("games", "/usr/games"), ("man", "/var/cache/man"), ("lp", "/var/spool/lpd"),
    ("mail", "/var/mail"), ("news", "/var/spool/news"), ("uucp", "/var/spool/uucp"),
    ("proxy", "/bin"), ("www-data", "/var/www"), ("backup", "/var/backups"),
    ("nobody", "/nonexistent")]

/-- The name behind a tilde, which a separator ends; none if something in it is quoted. -/
def tildeName? (inAssignment : Bool) : Word → Option Raw
  | .char c false :: rest =>
    if c == '/' || (c == ':' && inAssignment) then some []
    else (tildeName? inAssignment rest).map (c :: ·)
  | [] => some []
  | _ => none

/-- What a tilde with a name stands for. -/
def home? (s : Session) (name : Raw) : Option Raw :=
  if name.isEmpty then s.value? "HOME".toList
  else (homes.find? fun h => h.1.toList == name).map fun h => h.2.toList

/-- The letters of options in the order in which they are shown. -/
def optionLetters : List Char := "ubaEVvxsnmiIfe".toList

/-- A separator between arguments that become one text: the first one of all, or a blank. -/
def joint (s : Session) : Raw :=
  match s.find? "IFS".toList with
  | some { value := some value, .. } => value.take 1
  | _ => [' ']

/-- The arguments one behind the other, as a parameter in a word. -/
def arguments (s : Session) (all quoted full : Bool) : List Glyph :=
  let between :=
    if full && (all || !quoted) then [Glyph.next]
    else Field.glyphs (joint s) quoted
  (s.arguments.map (Field.glyphs · quoted)).intersperse between |>.flatten

/-- The value of a parameter that is not all arguments. -/
def value? (s : Session) (name : Raw) : Option Raw :=
  match name with
  | ['?'] => some (Sh.showNat s.status)
  | ['#'] => some (Sh.showNat s.arguments.length)
  | ['$'] => some (Sh.showNat s.number)
  | ['!'] => s.background.map Sh.showNat
  | ['-'] => some (optionLetters.filter s.hasOption)
  | name =>
    match if name.all Char.isDigit then (String.ofList name).toNat? else none with
    | some 0 => some s.name
    | some n => s.arguments[n - 1]?
    | none => s.value? name

/-- Complains about a parameter without a value. -/
def missing {α : Type} (name reason : Raw) : Sh α := Sh.fail (name ++ ": ".toList ++ reason)

/-- A stretch for a value. -/
def valueStretch (quoted : Bool) (glyphs : List Glyph) : Stretch :=
  ⟨if quoted then .whole else .atSeparators, glyphs⟩

/-- The output of a command as a value: without line ends behind it and bytes of zero. -/
def outputValue (output : Raw) : Raw :=
  ((output.filter (· != '\x00')).reverse.dropWhile (· == '\n')).reverse

mutual

/-- Expands the parts of a word. The first `passed` ones are passed over, and a tilde may stand in
front of them if `tilde` is set. -/
def expandParts (substitute : Option Node → Sh Raw) (m : Manner) (inQuotes tilde equals : Bool)
    (passed : Nat) : List Part → Sh (List Stretch)
  | [] => return []
  | .mark :: rest => do
    if 0 < passed then expandParts substitute m inQuotes false equals (passed - 1) rest
    else
      let s ← get
      match rest with
      | .parameter ['@'] .plain false _ :: .mark :: _ =>
        if inQuotes || !m.full then
          let stretches ← expandParts substitute m (!inQuotes) false equals 0 rest
          return ⟨.whole, [.mark]⟩ :: stretches
        else
          let stretches ← expandParts substitute m inQuotes false equals 2 rest
          if s.arguments.isEmpty then return stretches
          else return ⟨.atArguments, arguments s true true true⟩ :: stretches
      | _ =>
        let stretches ← expandParts substitute m (!inQuotes) false equals 0 rest
        return ⟨.whole, [.mark]⟩ :: stretches
  | part :: rest => do
    if 0 < passed then expandParts substitute m inQuotes false equals (passed - 1) rest
    else
      let s ← get
      let name := match part with
        | .char '~' false => if tilde then tildeName? m.assignment rest else none
        | _ => none
      match name.bind fun name => (home? s name).map (name, ·) with
      | some (name, home) =>
        let stretches ← expandParts substitute m inQuotes false equals name.length rest
        return ⟨.whole, Field.glyphs home true⟩ :: stretches
      | none =>
        let first ← expandPart substitute m inQuotes part
        let equals' := equals || (part matches .char '=' false)
        let tilde := m.assignment && match part with
          | .char '=' false => !equals
          | .char ':' false => equals
          | _ => false
        return first ++ (← expandParts substitute m inQuotes tilde equals' 0 rest)

/-- Expands a part of a word. -/
def expandPart (substitute : Option Node → Sh Raw) (m : Manner) (inQuotes : Bool) :
    Part → Sh (List Stretch)
  | .mark => return []
  | .char c quoted =>
    return [⟨if m.inWord && !m.quoted && !inQuotes then .atSeparators else .whole,
      [.char c quoted]⟩]
  | .command body => do
    let value := outputValue (← substitute body)
    return [valueStretch inQuotes (Field.glyphs value inQuotes)]
  | .arithmetic word => do
    let inner ← expandParts substitute {} false false false 0 word
    let value ← Arithmetic.evaluate (Field.text (inner.flatMap (·.glyphs)))
    return [valueStretch inQuotes (Field.glyphs (Numeral.write value) inQuotes)]
  | .parameter name use colon word => do
    let s ← get
    let isAll := name == ['@'] || name == ['*']
    let value := if isAll then none else value? s name
    let glyphs := if isAll then arguments s (name == ['@']) inQuotes m.full
      else Field.glyphs (value.getD []) inQuotes
    let isThere := (isAll || value.isSome) && (!colon || !glyphs.isEmpty)
    let record (glyphs : List Glyph) : List Stretch :=
      if !inQuotes then [⟨.atSeparators, glyphs⟩]
      else if name == ['@'] && m.full && !s.arguments.isEmpty then [⟨.atArguments, glyphs⟩]
      else [⟨.whole, glyphs⟩]
    let inWord : Manner := { m with inWord := true, quoted := inQuotes }
    match use with
    | .bad => Sh.fail "Bad substitution".toList
    | .default =>
      if isThere then return record glyphs
      else expandParts substitute inWord inQuotes true false 0 word
    | .alternative =>
      if isThere then expandParts substitute inWord inQuotes true false 0 word else return []
    | .assign =>
      if isThere then return record glyphs
      else
        let inner ← expandParts substitute {} false true false 0 word
        let text := Field.text (inner.flatMap (·.glyphs))
        if !isName name then Sh.fail (name ++ ": bad variable name".toList)
        Sh.assign name text false
        return record (Field.glyphs text inQuotes)
    | .require =>
      if isThere then return record glyphs
      else if word.isEmpty then
        missing name ("parameter not set".toList ++ if colon then " or null".toList else [])
      else
        let inner ← expandParts substitute {} false true false 0 word
        missing name (Field.text (inner.flatMap (·.glyphs)))
    | use =>
      if !isAll && value.isNone && s.hasOption 'u' then
        missing name "parameter not set".toList
      else match use with
        | .length => return record (Field.glyphs (Sh.showNat (glyphs.length)) inQuotes)
        | .trim front longest =>
          let inner ← expandParts substitute {} false true false 0 word
          let pattern := Field.pattern (inner.flatMap (·.glyphs))
          let text := pattern.trim front longest (Field.text glyphs)
          return record (Field.glyphs text inQuotes)
        | _ => return record glyphs

end

/-- Expands a word. -/
def expand (substitute : Option Node → Sh Raw) (m : Manner) (word : Word) : Sh (List Stretch) :=
  expandParts substitute m m.quoted m.tilde false 0 word

/-- Expands a word to one text. -/
def expandText (substitute : Option Node → Sh Raw) (m : Manner) (word : Word) : Sh Raw := do
  return Field.text ((← expand substitute m word).flatMap (·.glyphs))

/-- Expands a word to a pattern. -/
def expandPattern (substitute : Option Node → Sh Raw) (word : Word) : Sh Pattern := do
  return Field.pattern ((← expand substitute { tilde := true } word).flatMap (·.glyphs))

/-- Whether there is something at a path. -/
def exists? (path : Raw) : Sh Bool := do
  match ← Sh.ask (.look path false) with
  | .ok _ => return true
  | .error _ => return false

/-- The names in a directory. -/
def namesIn (path : Raw) : Sh (List Raw) := do
  match ← Sh.ask (.names (if path.isEmpty then ['.'] else path)) with
  | .ok names => return names
  | .error _ => return []

/-- The paths that fit the parts of a pattern, below a path that was found. -/
def pathsThatFit (found : Raw) : List Pattern → Sh (List Raw)
  | [] => return [found]
  | part :: rest => do
    let slash : Raw := if rest.isEmpty then [] else ['/']
    if !part.hasWildcard then
      let path := found ++ part.unescape.text ++ slash
      if rest.isEmpty then
        return if ← exists? path then [path] else []
      else pathsThatFit path rest
    else
      let hidden := part.unescape.head?.any fun c => c.1 == '.'
      let names := (← namesIn found) ++ if hidden then [['.'], ['.', '.']] else []
      let fitting := names.filter fun name => (hidden || name.head? != some '.') && part.fits name
      let paths ← fitting.mapM fun name => pathsThatFit (found ++ name ++ slash) rest
      return paths.flatten

/-- The words that a field stands for: the paths that fit it, or its own text. -/
def globbed (field : List Glyph) : Sh (List Raw) := do
  let text := Field.text field
  let pattern := (Field.pattern field).unescape
  if (← get).hasOption 'f' || !pattern.hasWildcard then return [text]
  match ← pathsThatFit [] pattern.split with
  | [] => return [text]
  | found => return found.mergeSort fun a b => !decide (b < a)

/-- Expands a word to the words that it becomes. -/
def expandFields (substitute : Option Node → Sh Raw) (word : Word) : Sh (List Raw) := do
  let stretches ← expand substitute { full := true, tilde := true } word
  let fields := Field.split (← get).separators stretches
  let words ← fields.mapM globbed
  return words.flatten

end Expansion
end Judge.Host.Shell
