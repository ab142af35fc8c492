import Judge.Decimal.Shortest

/-!
Writing JSON text over several lines: two spaces per level, one item or member a line, empty lists
and records closed at once.
-/

namespace Judge.Json

/-- A value to be written. -/
inductive Value where
  | null
  | bool (value : Bool)
  | int (value : Int)
  | real (value : Decimal.Binary64)
  | text (value : String)
  | list (items : List Value)
  | record (members : List (String × Value))

/-- How a character is written inside a text. -/
def escape (c : Char) : List Char :=
  if c = '\x22' then ['\\', '\x22']
  else if c = '\\' then ['\\', '\\']
  else if c = '\x08' then ['\\', 'b']
  else if c = '\x0c' then ['\\', 'f']
  else if c = '\n' then ['\\', 'n']
  else if c = '\r' then ['\\', 'r']
  else if c = '\t' then ['\\', 't']
  else if c < ' ' then
    ['\\', 'u', '0', '0', Nat.digitChar (c.toNat / 16), Nat.digitChar (c.toNat % 16)]
  else [c]

/-- A text between quotes. -/
def writeText (text : List Char) : List Char := '\x22' :: text.flatMap escape ++ ['\x22']

/-- A floating-point number; one that is not finite has no form of its own. -/
def writeReal (value : Decimal.Binary64) : List Char :=
  if value.isFinite then Decimal.recordLayout.write value else ['n', 'u', 'l', 'l']

/-- The start of a line at a level. -/
def newLine (level : Nat) : List Char := '\n' :: List.replicate (2 * level) ' '

mutual

/-- Writes a value whose first line is at a level. -/
def write (level : Nat) : Value → List Char
  | .null => ['n', 'u', 'l', 'l']
  | .bool value => (if value then "true" else "false").toList
  | .int value => Decimal.writeInt value
  | .real value => writeReal value
  | .text value => writeText value.toList
  | .list [] => ['[', ']']
  | .list (item :: items) =>
    '[' :: newLine (level + 1) ++ write (level + 1) item ++ writeItems (level + 1) items ++
      newLine level ++ [']']
  | .record [] => ['\x7b', '\x7d']
  | .record ((key, value) :: members) =>
    '\x7b' :: newLine (level + 1) ++ writeText key.toList ++ [':', ' '] ++
      write (level + 1) value ++ writeMembers (level + 1) members ++ newLine level ++ ['\x7d']

/-- Writes the items after the first one. -/
def writeItems (level : Nat) : List Value → List Char
  | [] => []
  | item :: items => ',' :: newLine level ++ write level item ++ writeItems level items

/-- Writes the members after the first one. -/
def writeMembers (level : Nat) : List (String × Value) → List Char
  | [] => []
  | (key, value) :: members =>
    ',' :: newLine level ++ writeText key.toList ++ [':', ' '] ++ write level value ++
      writeMembers level members

end

end Judge.Json
