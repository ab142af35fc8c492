import Judge.Json.Decoder
import Judge.Sandbox

/-!
The configuration: a JSON record in which every field may be left out.
-/

namespace Judge

open Json (Decoder RecordField Reading)

/-- What is configured. -/
structure Config where
  sandbox : Sandbox.Settings
  /-- How many boxes may be in use at once. -/
  boxes : Nat
  /-- The directory of compiled programs. -/
  compilePath : String
  /-- The directory of the store. -/
  dataPath : String
  /-- The languages that are disabled besides those that are so from the start. -/
  disabledLanguages : List String
  deriving DecidableEq, Repr

/-- Why there is no configuration. -/
inductive Config.Error where
  | json (cause : Json.ReadError)
  | noBoxes
  deriving DecidableEq, Repr

namespace Config

/-- The wording of each cause. -/
def Error.message : Error → String
  | .json _ => "The configuration is no valid record"
  | .noBoxes => "sandbox.boxes must not be 0"

/-- The configuration of one who configures nothing, given the home directory. -/
def standard (home : String) : Config where
  sandbox := { isolatePath := "isolate", workRoot := home ++ "/.cache/grader/boxes" }
  boxes := 4
  compilePath := home ++ "/.local/share/grader/compiles"
  dataPath := home ++ "/.local/share/grader/data"
  disabledLanguages := []

/-- The numbers of boxes that can be written. -/
def boxBounds : Decimal.Bounds := ⟨0, 4294967295⟩

/-- The names of the backends. -/
def backends : List (String × Sandbox.Backend) :=
  [("auto", .auto), ("isolate", .isolate), ("local", .plain)]

/-- The fields of the sandbox record. -/
def sandboxFields : List (RecordField Config) := [
  .absentOk "backend" fun c r => do
    let backend ← Json.asChoice backends r
    return { c with sandbox := { c.sandbox with backend } },
  .absentOk "boxes" fun c r => do return { c with boxes := (← Json.asInt boxBounds r).toNat },
  .absentOk "isolate_path" fun c r => do
    let isolatePath ← Json.asText r
    return { c with sandbox := { c.sandbox with isolatePath } },
  .absentOk "work_root" fun c r => do
    let workRoot ← Json.asText r
    return { c with sandbox := { c.sandbox with workRoot } }]

/-- The fields of the configuration. -/
def fields : List (RecordField Config) := [
  .absentOk "sandbox" fun c r => Json.asRecord sandboxFields c r,
  .absentOk "compile_path" fun c r => do return { c with compilePath := ← Json.asText r },
  .absentOk "data_path" fun c r => do return { c with dataPath := ← Json.asText r },
  .absentOk "disabled_languages" fun c r => do
    return { c with disabledLanguages := ← Json.asList Json.asText r }]

/-- Reads a configuration, given the home directory. -/
def ofText (home : String) (text : List Char) : Except Error Config :=
  match Json.decode (Json.asRecord fields (standard home)) (Utf8.encode text) with
  | .error cause => .error (.json cause)
  | .ok config => if config.boxes = 0 then .error .noBoxes else .ok config

end Config
end Judge
