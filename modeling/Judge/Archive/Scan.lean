import Judge.Archive.Error
import Judge.Decimal.Integer
import Judge.Path

/-!
Scanning an archive: what the names of entries say, which entries hold the data of which test, the
scores that score files give, the settings, and the scores that tests without an explicit one get. A
step that fails keeps what it did before the failure.
-/

namespace Judge.Archive

/-! ### Names of entries -/

/-- What an entry holds. -/
inductive EntryKind where
  | scores
  | properties
  | input (test : Int)
  | output (test : Int)
  /-- Nothing that an import needs. -/
  | other
  deriving DecidableEq, Repr

namespace EntryName

/-- The digits in front of a name and the rest of it. -/
def leadingDigits (name : List Char) : List Char × List Char :=
  (name.takeWhile Char.isDigit, name.dropWhile Char.isDigit)

/-- The number in front of a dash that a name starts with. -/
def leadingNumber? (name : List Char) : Option Int :=
  match leadingDigits name with
  | ([], _) => none
  | (digits, '-' :: _) => Decimal.readInteger? Decimal.int32 digits
  | _ => none

/-- A name without its extension. -/
def stem (name : List Char) : List Char :=
  match Text.cutLast '.' name with
  | some (before, _) => before
  | none => name

/-- The number in front of the extension of a name. -/
def trailingNumber? (name : List Char) : Option Int :=
  let part := match Text.cutLast '.' (stem name) with
    | some (_, after) => after
    | none => stem name
  Decimal.readInteger? Decimal.int32 part

/-- The test that a data file named `<n>-<name>.<ext>` or `<name>.<n>.<ext>` belongs to. -/
def testNumber? (name : List Char) : Option Int :=
  match leadingNumber? name with
  | some number => some number
  | none => trailingNumber? name

/-- Whether a name ends with an ending. -/
def endsWith (name : List Char) (ending : String) : Bool := ending.toList.isSuffixOf name

/-- What the file of a name holds. -/
def kind (name : List Char) : EntryKind :=
  if endsWith name ".txt" then .scores
  else if endsWith name ".properties" then .properties
  else
    match testNumber? name with
    | none => .other
    | some test =>
      if endsWith name ".in" then .input test
      else if endsWith name ".out" || endsWith name ".ok" || endsWith name ".sol" then .output test
      else .other

/-- The name of the file that an entry leads to, empty if it leads to none. -/
def baseName (name : String) : List Char := (Path.fileName? name.toList).getD []

example : testNumber? "12-a.b.3.in".toList = some 12 := by decide

example : testNumber? "a.-3.in".toList = some (-3) := by decide

end EntryName

/-! ### Scanning -/

/-- Where the data of a test is in the archive, and its score. -/
structure TestFiles where
  input : Option Nat := none
  output : Option Nat := none
  score : Int := 0
  deriving DecidableEq, Repr, Inhabited

/-- What is known of an archive so far. -/
structure Scan where
  tests : Table TestFiles := .empty
  /-- Test numbers with an explicit score, in the order of their lines. -/
  scored : List Int := []
  properties : Option Properties := none
  deriving DecidableEq, Inhabited

namespace Scan

/-- What is known of a test. -/
def test (scan : Scan) (number : Int) : TestFiles := (scan.tests.get? number).getD {}

/-- Replaces what is known of a test. -/
def setTest (scan : Scan) (number : Int) (files : TestFiles) : Scan :=
  { scan with tests := scan.tests.insert number files }

/-- The score of every known test. -/
def scores (scan : Scan) : List (Int × Int) := scan.tests.entries.map fun e => (e.1, e.2.score)

/-- Records the input of a test, which must not have one. -/
def addInput (scan : Scan) (number : Int) (index : Nat) : Scan × Option Error :=
  let files := scan.test number
  match files.input with
  | some _ => (scan.setTest number files, some (.multipleInputs number))
  | none => (scan.setTest number { files with input := some index }, none)

/-- Records the output of a test, which must not have one. -/
def addOutput (scan : Scan) (number : Int) (index : Nat) : Scan × Option Error :=
  let files := scan.test number
  match files.output with
  | some _ => (scan.setTest number files, some (.multipleOutputs number))
  | none => (scan.setTest number { files with output := some index }, none)

/-- The test and the score on a line of a score file, if the line consists of just these. -/
def scoreLine? (line : List Char) : Option (Int × Int) :=
  match Text.words line with
  | [test, score] => do
    return (← Decimal.readInteger? Decimal.int32 test, ← Decimal.readInteger? Decimal.int32 score)
  | _ => none

/-- Gives a test its explicit score. -/
def setScore (scan : Scan) (number score : Int) : Scan :=
  { scan.setTest number { scan.test number with score := score } with
    scored := scan.scored ++ [number] }

/-- Reads the lines of a score file, which may end in a fault. A second score for a test is an
error; lines of another form are skipped. -/
def readScoreLines (fault : Option IoError) (scan : Scan) : List Bytes → Scan × Option Error
  | [] => (scan, fault.map .io)
  | line :: rest =>
    match Utf8.decode? line with
    | none => (scan, some (.io .badText))
    | some text =>
      match scoreLine? text with
      | none => readScoreLines fault scan rest
      | some (number, score) =>
        if scan.scored.contains number then (scan, some .badScores)
        else readScoreLines fault (scan.setScore number score) rest

/-- The lines that a stream delivers. A fault swallows the line that it comes in. -/
def deliveredLines (source : Source) : List Bytes :=
  match source.fault with
  | none => Text.byteLines source.delivered
  | some _ => Text.byteLines
      (source.delivered.take (source.delivered.length -
        (source.delivered.reverse.takeWhile (· != 10)).length))

/-- Reads a score file. -/
def readScores (scan : Scan) (source : Source) : Scan × Option Error :=
  readScoreLines source.fault scan (deliveredLines source)

/-- Reads a file of settings, which replaces the settings read before. -/
def readProperties (scan : Scan) (source : Source) : Scan × Option Error :=
  match source.readText with
  | .error cause => (scan, some (.io cause))
  | .ok text =>
    match Properties.ofText text with
    | .error cause => (scan, some (.badProperties cause))
    | .ok properties => ({ scan with properties := some properties }, none)

/-- Takes one entry into account. -/
def readEntry (scan : Scan) (entries : List Entry) (index : Nat) : Scan × Option Error :=
  match openAt entries index with
  | .error cause => (scan, some (.zip cause))
  | .ok (entry, source) =>
    if entry.isDirectory then (scan, none)
    else
      match EntryName.kind (EntryName.baseName entry.name) with
      | .scores => scan.readScores source
      | .properties => scan.readProperties source
      | .input test => scan.addInput test index
      | .output test => scan.addOutput test index
      | .other => (scan, none)

/-- Takes entries into account, up to the first failure. -/
def readEntries (entries : List Entry) (scan : Scan) : List Nat → Scan × Option Error
  | [] => (scan, none)
  | index :: rest =>
    match scan.readEntry entries index with
    | (scan, some error) => (scan, some error)
    | (scan, none) => readEntries entries scan rest

/-- Whether an archive has everything that an import needs: data for every test that a group lists,
and both an input and an output for every test. -/
def validate (scan : Scan) : Except Error Unit := do
  match scan.properties with
  | some properties =>
    if properties.subtasks.isSome then
      let subtasked := properties.subtaskedTests
      if subtasked.any fun test => !scan.tests.contains test then
        throw (.subtaskMismatch subtasked.length scan.tests.size)
  | none => pure ()
  match scan.tests.entries.find? fun e => e.2.input.isNone || e.2.output.isNone with
  | some (number, _) => throw (.missingFile number)
  | none => pure ()

/-- Gives every test that has no explicit score its share. The tests before `cutoff` get one point
less than the others; a test that has points already keeps them and takes up no place. -/
def assignShares (scored : List Int) (share cutoff : Int) (place : Int) :
    List (Int × TestFiles) → List (Int × TestFiles)
  | [] => []
  | (number, files) :: rest =>
    if scored.contains number || files.score > 0 then
      (number, files) :: assignShares scored share cutoff place rest
    else
      let score := Decimal.wrap32 (if place < cutoff then share - 1 else share)
      (number, { files with score }) :: assignShares scored share cutoff (place + 1) rest

theorem map_fst_assignShares (scored : List Int) (share cutoff place : Int)
    (entries : List (Int × TestFiles)) :
    (assignShares scored share cutoff place entries).map (·.1) = entries.map (·.1) := by
  induction entries generalizing place with
  | nil => rfl
  | cons e rest ih =>
    obtain ⟨number, files⟩ := e
    simp only [assignShares]
    split <;> simp [ih]

/-- What is left of 100 points after the explicit scores. -/
def remaining (scan : Scan) : Int :=
  100 - scan.scored.foldl (fun total number => total + (scan.test number).score) 0

/-- The tests without an explicit score. -/
def unscored (scan : Scan) : List Int :=
  scan.tests.keys.filter fun number => !scan.scored.contains number

/-- Splits what is left of 100 points between the tests without an explicit score, the smaller
shares going to the lowest numbers. -/
def inferScores (scan : Scan) : Scan :=
  if scan.tests.size ≤ scan.scored.length then scan
  else
    let count : Int := scan.unscored.length
    let share := scan.remaining.tdiv count + 1
    let cutoff := count - scan.remaining.tmod count
    { scan with
      tests.entries := assignShares scan.scored share cutoff 0 scan.tests.entries
      tests.ascending := by
        have h := scan.tests.ascending
        rw [Ascending, ← List.pairwise_map (f := Prod.fst) (R := (· < ·))] at h ⊢
        rwa [map_fst_assignShares] }

end Scan

end Judge.Archive
