import Judge.Checker
import Judge.Text.Blank
import Judge.Text.Lines
import Judge.Text.Utf8

/-!
Comparing an output with the expected one line by line, white space at the ends of lines and at the
end of the text left aside.
-/

namespace Judge.Checker

/-- A text as it is compared. -/
def normalize (text : List Char) : List Char :=
  Text.trimEnd (Text.join ['\n'] ((Text.lines text).map Text.trimEnd))

/-- Whether two outputs agree. -/
def agree (output expected : Bytes) : Bool :=
  normalize (Utf8.decodeLossy output) == normalize (Utf8.decodeLossy expected)

/-- Judges an output by comparison. -/
def diff (output expected : Bytes) : Verdict :=
  if agree output expected then .graded 100 "Output is correct"
  else .graded 0 "Output isn't correct"

end Judge.Checker
