import Judge.Host.Pattern

/-!
Fields: what words become when they are expanded. Values that are not quoted are split where
separators stand in them; what is left over keeps its quotes, so that it can serve as a pattern.
-/

namespace Judge.Host.Shell

/-- A part of an expanded word. -/
inductive Glyph where
  | char (c : Char) (quoted : Bool)
  /-- Where quotes were. -/
  | mark
  /-- Where an argument ends and the next one begins. -/
  | next
  deriving DecidableEq, Repr

/-- How a stretch of an expanded word is split. -/
inductive Splitting where
  /-- Not at all. -/
  | whole
  | atSeparators
  /-- Only between arguments. -/
  | atArguments
  deriving DecidableEq, Repr

/-- A stretch of an expanded word. -/
structure Stretch where
  splitting : Splitting := .whole
  glyphs : List Glyph
  deriving Repr

namespace Field

/-- The glyphs of a text. -/
def glyphs (text : Raw) (quoted : Bool) : List Glyph := text.map (.char · quoted)

/-- The pattern of a field. -/
def pattern (glyphs : List Glyph) : Pattern := glyphs.filterMap fun
  | .char c quoted => some (c, quoted)
  | _ => none

/-- The text of a field. -/
def text (glyphs : List Glyph) : Raw := (pattern glyphs).text

/-- Separators that count as one when several of them stand together. -/
def isPlainSeparator (c : Char) : Bool := c == ' ' || c == '\t' || c == '\n'

/-- The state of splitting: the fields so far and the glyphs of the current one, both in reverse. -/
structure Split where
  fields : List (List Glyph) := []
  current : List Glyph := []
  /-- Whether the last field ended at a plain separator, so that more of them may follow. -/
  isOpen : Bool := false
  /-- Whether the stretch before was split between arguments. -/
  afterArguments : Bool := false
  deriving Repr

namespace Split

/-- Ends a field. -/
def finish (split : Split) (isOpen : Bool) : Split :=
  { split with fields := split.current.reverse :: split.fields, current := [], isOpen }

/-- Whether a glyph is a separator. -/
def separates (separators : Raw) : Glyph → Bool
  | .char c quoted => !quoted && separators.contains c
  | .next => true
  | .mark => false

/-- Whether a separator counts as one with those beside it. -/
def isPlain : Glyph → Bool
  | .char c _ => isPlainSeparator c
  | .next => true
  | .mark => true

/-- Goes on with one glyph of a stretch that is split at the separators that are given. -/
def step (separators : Raw) (inArguments : Bool) (split : Split) (glyph : Glyph) : Split :=
  if !separates separators glyph then
    { split with current := glyph :: split.current, isOpen := false }
  else if split.isOpen then
    if isPlain glyph then split else { split with isOpen := false }
  else
    let isOpen := isPlain glyph && !split.afterArguments && !inArguments
    if split.current.isEmpty && isOpen then { split with isOpen := false }
    else split.finish isOpen

/-- Goes on with a stretch. -/
def stretch (separators : Raw) (split : Split) (stretch : Stretch) : Split :=
  match stretch.splitting with
  | .whole => { split with current := stretch.glyphs.reverse ++ split.current }
  | .atSeparators =>
    { stretch.glyphs.foldl (step separators false) { split with isOpen := false } with
      afterArguments := false }
  | .atArguments =>
    { stretch.glyphs.foldl (step [] true) { split with isOpen := false } with
      afterArguments := true }

end Split

/-- The fields that an expanded word is split into. -/
def split (separators : Raw) (word : List Stretch) : List (List Glyph) :=
  let last := word.foldl (Split.stretch separators) {}
  let fields := if last.current.isEmpty && !last.afterArguments then last.fields
    else last.current.reverse :: last.fields
  fields.reverse

example : (split " ".toList [⟨.atSeparators, glyphs "a  b".toList false⟩]).map text =
    ["a".toList, "b".toList] := by decide

end Field
end Judge.Host.Shell
