import Judge.Archive.Properties
import Judge.Decimal.Real
import Judge.Text.Lines
import Judge.Text.Quoted

/-!
Writing settings as text: the settings that are present, one `key=value` per line in a fixed order.
Limits have six decimal places, and tags are quoted.
-/

namespace Judge.Archive

/-- One setting with its line end. -/
def settingLine (key : Key) (value : List Char) : List Char :=
  key.name.toList ++ '=' :: value ++ ['\n']

/-- The line of a setting that may be absent. -/
def optionalLine {α : Type} (key : Key) (write : α → List Char) : Option α → List Char
  | none => []
  | some value => settingLine key (write value)

/-- The test numbers of a group. -/
def writeGroup (group : Group) : List Char := Text.join [';'] (group.tests.map Decimal.writeInt)

/-- The groups in their order. -/
def writeGroups (groups : Table Group) : List Char := Text.join [','] (groups.values.map writeGroup)

/-- The scores of the groups in their order. -/
def writeWeights (groups : Table Group) : List Char :=
  Text.join [','] (groups.values.map fun group => Decimal.writeInt group.score)

/-- A memory limit in kilobytes, written in megabytes. -/
def writeMegabytes (kilobytes : Int) : List Char :=
  Decimal.writeFixed 6 ((Decimal.Binary64.ofInt kilobytes).div (.ofInt 1024))

/-- A truth value. -/
def writeFlag (flag : Bool) : List Char := (if flag then "true" else "false").toList

/-- Tags between quotes. -/
def writeTags (tags : List String) : List Char :=
  Text.join [','] (tags.map fun tag => Text.quote tag.toList)

/-- Writes settings. -/
def Properties.toText (p : Properties) : List Char :=
  optionalLine .groups writeGroups p.subtasks ++
  optionalLine .weights writeWeights p.subtasks ++
  optionalLine .time (Decimal.writeFixed 6) p.timeLimit ++
  optionalLine .memory writeMegabytes p.memoryLimit ++
  optionalLine .defaultScore Decimal.writeInt p.defaultPoints ++
  optionalLine .author String.toList p.author ++
  optionalLine .source String.toList p.source ++
  optionalLine .sourceSize Decimal.writeInt p.sourceSize ++
  optionalLine .consoleInput writeFlag p.consoleInput ++
  optionalLine .testName String.toList p.testName ++
  optionalLine .scoringStrategy String.toList p.scoringStrategy ++
  optionalLine .tags writeTags p.tags

end Judge.Archive
