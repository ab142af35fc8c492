import Judge.Json.Reader

/-!
Taking values of known types out of JSON text. Flaws and unexpected values are reported in the order
of the text. A record may also be written as a list of its fields in order; unknown fields are
passed over, and a field given twice is an error.
-/

namespace Judge.Json

/-- A way of taking a value out of a reading. -/
abbrev Decoder (α : Type) := Reading → Except ReadError α

/-- The error for a reading that is not of the wanted kind. -/
def unexpected : Reading → ReadError
  | .broken reason => .flaw reason.whenRead
  | .text none => .flaw .malformed
  | .number n => if n.numeral = .outOfRange then .flaw .malformed else .shape
  | _ => .shape

mutual

/-- The flaw that passing over a reading meets. -/
def skipFlaw? : Reading → Option Flaw
  | .broken reason => some reason.whenSkipped
  | .list items stop => (skipItems? items).or (stop.map (·.whenSkipped))
  | .record members stop => (skipMembers? members).or (stop.map (·.whenSkipped))
  | _ => none

/-- The first flaw among items. -/
def skipItems? : List Reading → Option Flaw
  | [] => none
  | item :: items => (skipFlaw? item).or (skipItems? items)

/-- The first flaw among members. -/
def skipMembers? : List (Option (List Char) × Reading) → Option Flaw
  | [] => none
  | (_, value) :: members => (skipFlaw? value).or (skipMembers? members)

end

/-- Passes over a value. -/
def skip (reading : Reading) : Except ReadError Unit :=
  match skipFlaw? reading with
  | some flaw => .error (.flaw flaw)
  | none => .ok ()

/-- Takes a text. -/
def asText : Decoder String
  | .text (some value) => .ok (String.ofList value)
  | reading => .error (unexpected reading)

/-- Takes a whole number within bounds. -/
def asInt (bounds : Decimal.Bounds) : Decoder Int
  | .number n =>
    match n.numeral with
    | .whole value => if bounds.contains value then .ok value else .error .shape
    | _ => .error (unexpected (.number n))
  | reading => .error (unexpected reading)

/-- Takes a floating-point number. -/
def asReal : Decoder Decimal.Binary64
  | .number n =>
    match n.numeral with
    | .whole value => .ok (.ofInt value)
    | .real value => .ok value
    | .outOfRange => .error (.flaw .malformed)
  | reading => .error (unexpected reading)

/-- Takes a truth value. -/
def asBool : Decoder Bool
  | .bool value => .ok value
  | reading => .error (unexpected reading)

/-- Takes one of several named values: its name, or a record whose only field has that name and
holds null. -/
def asChoice {α : Type} (choices : List (String × α)) : Decoder α
  | .text (some name) =>
    match choices.lookup (String.ofList name) with
    | some value => .ok value
    | none => .error .shape
  | .record ((some name, reading) :: members) stop =>
    match choices.lookup (String.ofList name), reading with
    | none, _ => .error .shape
    | some value, .null =>
      match members, stop with
      | [], none => .ok value
      | [], some reason => .error (.flaw reason.whenChosen)
      | _ :: _, _ => .error (.flaw .malformed)
    | some _, reading => .error (unexpected reading)
  | .record [] (some reason) => .error (.flaw reason.whenRead)
  | .broken reason => .error (.flaw reason.whenChosen)
  | _ => .error (.flaw .malformed)

/-- Takes a list. -/
def asList {α : Type} (item : Decoder α) : Decoder (List α)
  | .list items stop => do
    let values ← items.mapM item
    match stop with
    | some reason => throw (.flaw reason.whenRead)
    | none => return values
  | reading => .error (unexpected reading)

/-- How a record is taken: its fields in order with their names, each telling whether it may be
absent and how it is put into the value under construction. -/
structure RecordField (β : Type) where
  name : String
  optional : Bool
  put : β → Reading → Except ReadError β

namespace RecordField

/-- A field that must be there. -/
def required {β : Type} (name : String) (put : β → Reading → Except ReadError β) : RecordField β :=
  ⟨name, false, put⟩

/-- A field that may be absent. -/
def absentOk {β : Type} (name : String) (put : β → Reading → Except ReadError β) : RecordField β :=
  ⟨name, true, put⟩

end RecordField

/-- Takes the fields of a record from its members. -/
def takeMembers {β : Type} (fields : List (RecordField β)) (seen : List String) (value : β) :
    List (Option (List Char) × Reading) → Except ReadError (List String × β)
  | [] => .ok (seen, value)
  | (none, _) :: _ => .error (.flaw .malformed)
  | (some key, reading) :: members =>
    match fields.find? fun field => field.name.toList == key with
    | none => do
      skip reading
      takeMembers fields seen value members
    | some field =>
      if seen.contains field.name then .error .shape
      else do takeMembers fields (field.name :: seen) (← field.put value reading) members

/-- Takes the fields of a record from a list of their values. -/
def takeItems {β : Type} (stop : Option Break) (value : β) :
    List (RecordField β) → List Reading → Except ReadError β
  | [], [] =>
    match stop with
    | some reason => .error (.flaw reason.whenRead)
    | none => .ok value
  | [], _ :: _ => .error (.flaw .malformed)
  | field :: fields, reading :: items => do takeItems stop (← field.put value reading) fields items
  | field :: fields, [] =>
    match stop with
    | some reason => .error (.flaw reason.whenRead)
    | none => if field.optional then takeItems none value fields [] else .error .shape

/-- Takes a record, given the value to start from. -/
def asRecord {β : Type} (fields : List (RecordField β)) (start : β) : Decoder β
  | .record members stop => do
    let (seen, value) ← takeMembers fields [] start members
    if let some reason := stop then throw (.flaw reason.whenRead)
    if fields.all fun field => field.optional || seen.contains field.name then return value
    else throw .shape
  | .list items stop => takeItems stop start fields items
  | reading => .error (unexpected reading)

/-- Takes a value out of a text that holds nothing else. -/
def decode {α : Type} (decoder : Decoder α) (text : Bytes) : Except ReadError α := do
  let (reading, rest) := read text
  let value ← decoder reading
  match rest.map skipBlanks with
  | some [] => return value
  | _ => throw (.flaw .malformed)

end Judge.Json
