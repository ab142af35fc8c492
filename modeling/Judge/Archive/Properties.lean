import Judge.Decimal.Binary64
import Judge.Table

/-!
The settings that an archive supplies for a problem. Every setting is optional, and one that is
absent leaves the problem as it is.
-/

namespace Judge.Archive

/-- A group of tests that earns its score as a whole. -/
structure Group where
  score : Int
  /-- Test numbers of the archive. -/
  tests : List Int
  deriving DecidableEq, Repr, Inhabited

/-- The settings of an archive. -/
structure Properties where
  /-- Groups by their position, which counts from one. -/
  subtasks : Option (Table Group) := none
  /-- Seconds. -/
  timeLimit : Option Decimal.Binary64 := none
  /-- Kilobytes. -/
  memoryLimit : Option Int := none
  defaultPoints : Option Int := none
  author : Option String := none
  source : Option String := none
  consoleInput : Option Bool := none
  testName : Option String := none
  tags : Option (List String) := none
  /-- Bytes. -/
  sourceSize : Option Int := none
  scoringStrategy : Option String := none
  deriving DecidableEq, Inhabited

/-- The names of settings. -/
inductive Key where
  | groups | weights | time | memory | defaultScore | author | source | consoleInput | testName
  | tags | sourceSize | scoringStrategy
  deriving DecidableEq, Repr

namespace Key

/-- How a setting is named in a file. -/
def name : Key → String
  | .groups => "groups"
  | .weights => "weights"
  | .time => "time"
  | .memory => "memory"
  | .defaultScore => "default_score"
  | .author => "author"
  | .source => "source"
  | .consoleInput => "console_input"
  | .testName => "test_name"
  | .tags => "tags"
  | .sourceSize => "source_size"
  | .scoringStrategy => "scoring_strategy"

/-- All settings. -/
def all : List Key :=
  [.groups, .weights, .time, .memory, .defaultScore, .author, .source, .consoleInput, .testName,
    .tags, .sourceSize, .scoringStrategy]

/-- The setting of a name. -/
def ofText? (text : List Char) : Option Key := all.find? fun key => key.name.toList == text

@[simp] theorem ofText?_name (key : Key) : ofText? key.name.toList = some key := by
  cases key <;> decide +kernel

end Key

namespace Properties

/-- The test numbers that some group lists, each once, in ascending order. -/
def subtaskedTests (properties : Properties) : List Int :=
  match properties.subtasks with
  | none => []
  | some groups =>
    (Table.ofList ((groups.values.flatMap (·.tests)).map fun test => (test, ()))).keys

/-- Equality with numbers compared by value: the zeros are equal, and what is not a number differs
from itself. -/
def sameAs (a b : Properties) : Bool :=
  { a with timeLimit := none } == { b with timeLimit := none } &&
    match a.timeLimit, b.timeLimit with
    | none, none => true
    | some s, some t => s.eq t
    | _, _ => false

end Properties
end Judge.Archive
