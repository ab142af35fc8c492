import Judge.Decimal.Integer
import Judge.Text.Blank
import Judge.Text.Quoted

/-!
The output of a checker: a score, and after a blank a message.
-/

namespace Judge.Checker

/-- Why an output has no score. -/
structure OutputError where
  token : List Char
  cause : Decimal.IntegerError
  deriving DecidableEq, Repr

/-- The wording of the error. -/
def OutputError.message (e : OutputError) : String :=
  "Bad checker score " ++ String.ofList (Text.quote e.token) ++ ": " ++ e.cause.message

/-- Reads the output of a checker. -/
def readOutput (output : List Char) : Except OutputError (Int × String) :=
  let (token, rest) := Text.cutBlank (Text.trimStart output)
  match Decimal.readInteger Decimal.int32 token with
  | .ok score => .ok (score, String.ofList (Text.trim rest))
  | .error cause => .error ⟨token, cause⟩

end Judge.Checker
