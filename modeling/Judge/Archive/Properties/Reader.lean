import Judge.Archive.Properties
import Judge.Decimal.Real
import Judge.Text.Blank
import Judge.Text.Lines
import Judge.Text.Quoted

/-!
Reading settings from text: one `key=value` per line, blank lines and lines that start with a hash
sign left out, lines without an equals sign or with an unknown key ignored, the last line of a key
winning. Groups and weights come in two lines that must have as many items as each other.
-/

namespace Judge.Archive

/-- Why settings cannot be read. -/
inductive PropertiesError where
  | invalid (key : Key) (value : List Char)
  | negative (key : Key) (value : List Char)
  | danglingEscape
  | openQuote
  | countsDiffer (groups weights : Nat)
  | groupsAlone
  | weightsAlone
  deriving DecidableEq, Repr

namespace PropertiesError

/-- The name and the quoted value that a message shows. -/
def shown (key : Key) (value : List Char) : String :=
  key.name ++ " value " ++ String.ofList (Text.quote value)

/-- The wording of each cause. -/
def message : PropertiesError → String
  | .invalid key value => "invalid " ++ shown key value
  | .negative key value => "negative " ++ shown key value
  | .danglingEscape => "dangling escape in tags"
  | .openQuote => "unterminated quote in tags"
  | .countsDiffer groups weights =>
    toString groups ++ " groups but " ++ toString weights ++ " weights"
  | .groupsAlone => "groups without weights"
  | .weightsAlone => "weights without groups"

end PropertiesError

/-- Reads a whole number of the given size. -/
def readNumber (bounds : Decimal.Bounds) (key : Key) (value : List Char) :
    Except PropertiesError Int :=
  match Decimal.readInteger? bounds value with
  | some n => .ok n
  | none => .error (.invalid key value)

/-- Reads a whole number that must not be negative. -/
def readNonNegative (bounds : Decimal.Bounds) (key : Key) (value : List Char) :
    Except PropertiesError Int := do
  let n ← readNumber bounds key value
  if n < 0 then .error (.negative key value) else .ok n

/-- Reads a limit, which must be finite and not below zero. -/
def readLimit (key : Key) (value : List Char) : Except PropertiesError Decimal.Binary64 :=
  match Decimal.readReal? value with
  | some limit =>
    if limit.isFinite && !limit.lt .zero then .ok limit else .error (.invalid key value)
  | none => .error (.invalid key value)

/-- A memory limit in kilobytes from one in megabytes. -/
def kilobytes (megabytes : Decimal.Binary64) : Int :=
  match (megabytes.mul (.ofInt 1024)).round? with
  | some n => Decimal.int64.clamp n
  | none => Decimal.int64.greatest

/-- Reads a truth value. -/
def readFlag (key : Key) (value : List Char) : Except PropertiesError Bool :=
  match String.ofList value with
  | "1" | "t" | "T" | "true" | "True" | "TRUE" => .ok true
  | "0" | "f" | "F" | "false" | "False" | "FALSE" => .ok false
  | _ => .error (.invalid key value)

/-- A tag that was read in reverse, without the blanks around it, unless nothing is left. -/
def closeTag (tag : List Char) : List String :=
  match Text.trim tag.reverse with
  | [] => []
  | tag => [String.ofList tag]

/-- Reads tags separated by commas. Quotes may open and close anywhere; between them a comma is an
ordinary character and a backslash makes the next character one. -/
def readTags (inQuotes : Bool) (tag : List Char) : List Char → Except PropertiesError (List String)
  | [] => if inQuotes then .error .openQuote else .ok (closeTag tag)
  | c :: rest =>
    if c = '\x22' then readTags (!inQuotes) tag rest
    else if c = '\\' ∧ inQuotes then
      match rest with
      | [] => .error .danglingEscape
      | e :: rest => readTags inQuotes (e :: tag) rest
    else if c = ',' ∧ !inQuotes then (readTags inQuotes [] rest).map (closeTag tag ++ ·)
    else readTags inQuotes (c :: tag) rest

/-- Reads the test numbers of one group. -/
def readGroup (text : List Char) : Except PropertiesError (List Int) :=
  (((Text.splitAt ';' text).map Text.trim).filter (!·.isEmpty)).mapM
    (readNumber Decimal.int32 .groups)

/-- Reads all groups. -/
def readGroups (value : List Char) : Except PropertiesError (List (List Int)) :=
  (Text.splitAt ',' value).mapM readGroup

/-- Reads the scores of all groups. -/
def readWeights (value : List Char) : Except PropertiesError (List Int) :=
  ((Text.splitAt ',' value).map Text.trim).mapM (readNumber Decimal.int32 .weights)

/-- What the lines so far say. -/
structure Draft where
  properties : Properties := {}
  groups : Option (List (List Int)) := none
  weights : Option (List Int) := none

namespace Draft

/-- Takes one setting into account. -/
def set (draft : Draft) (key : Key) (value : List Char) : Except PropertiesError Draft :=
  let properties := draft.properties
  let text := String.ofList value
  match key with
  | .groups => do return { draft with groups := some (← readGroups value) }
  | .weights => do return { draft with weights := some (← readWeights value) }
  | .time => do
    let timeLimit := some (← readLimit key value)
    return { draft with properties := { properties with timeLimit } }
  | .memory => do
    let megabytes ← readLimit key value
    let memoryLimit := some (kilobytes megabytes)
    return { draft with properties := { properties with memoryLimit } }
  | .defaultScore => do
    let points ← readNonNegative Decimal.int32 key value
    return { draft with properties := { properties with defaultPoints := some points } }
  | .author => return { draft with properties := { properties with author := some text } }
  | .source => return { draft with properties := { properties with source := some text } }
  | .consoleInput => do
    return { draft with
      properties := { properties with consoleInput := some (← readFlag key value) } }
  | .testName => return { draft with properties := { properties with testName := some text } }
  | .tags => do
    return { draft with properties := { properties with tags := some (← readTags false [] value) } }
  | .sourceSize => do
    let size ← readNonNegative Decimal.int64 key value
    return { draft with properties := { properties with sourceSize := some size } }
  | .scoringStrategy =>
    return { draft with properties := { properties with scoringStrategy := some text } }

/-- Pairs groups with weights and numbers them from one. -/
def finish (draft : Draft) : Except PropertiesError Properties :=
  match draft.groups, draft.weights with
  | none, none => .ok draft.properties
  | some _, none => .error .groupsAlone
  | none, some _ => .error .weightsAlone
  | some groups, some weights =>
    if groups.length = weights.length then
      let subtasks := (groups.zip weights).mapIdx fun i (tests, score) =>
        ((i : Int) + 1, ({ score, tests } : Group))
      .ok { draft.properties with subtasks := some (Table.ofList subtasks) }
    else .error (.countsDiffer groups.length weights.length)

end Draft

/-- The setting on a line, if the line holds one. -/
def settingOf (line : List Char) : Option (Key × List Char) :=
  match Text.trim line with
  | [] => none
  | '#' :: _ => none
  | line => do
    let (key, value) ← Text.cut '=' line
    let key ← Key.ofText? (Text.trim key)
    return (key, Text.trim value)

/-- Reads settings. The first line that cannot be read decides the error. -/
def Properties.ofText (text : List Char) : Except PropertiesError Properties := do
  let settings := (Text.lines text).filterMap settingOf
  let draft ← settings.foldlM (fun draft (key, value) => draft.set key value) ({} : Draft)
  draft.finish

end Judge.Archive
