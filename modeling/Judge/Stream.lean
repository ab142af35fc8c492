import Judge.Text.Utf8

/-!
Streams of bytes that may end in a fault, and the faults that files and streams show.
-/

namespace Judge

/-- What the operating system or a decoder reports. -/
inductive IoError where
  | missing
  | permission
  | notPermitted
  | textBusy
  | exists
  | notDirectory
  | isDirectory
  | notEmpty
  | nameTooLong
  | tooManyLinks
  | nulInName
  | nulInData
  | badFormat
  | brokenPipe
  | badDescriptor
  | noSpace
  | invalid
  | noProcess
  | noChild
  | interrupted
  | badText
  | checksum
  | gzipHeader
  | gzipChecksum
  | corruptData
  | incompleteData
  | longHeader
  | truncated
  | other (message : String)
  deriving DecidableEq, Repr

/-- The wording of each fault. -/
def IoError.message : IoError → String
  | .missing => "No such file or directory (os error 2)"
  | .permission => "Permission denied (os error 13)"
  | .notPermitted => "Operation not permitted (os error 1)"
  | .textBusy => "Text file busy (os error 26)"
  | .exists => "File exists (os error 17)"
  | .notDirectory => "Not a directory (os error 20)"
  | .isDirectory => "Is a directory (os error 21)"
  | .notEmpty => "Directory not empty (os error 39)"
  | .nameTooLong => "File name too long (os error 36)"
  | .tooManyLinks => "Too many levels of symbolic links (os error 40)"
  | .nulInName => "file name contained an unexpected NUL byte"
  | .nulInData => "nul byte found in provided data"
  | .badFormat => "Exec format error (os error 8)"
  | .brokenPipe => "Broken pipe (os error 32)"
  | .badDescriptor => "Bad file descriptor (os error 9)"
  | .noSpace => "No space left on device (os error 28)"
  | .invalid => "Invalid argument (os error 22)"
  | .noProcess => "No such process (os error 3)"
  | .noChild => "No child processes (os error 10)"
  | .interrupted => "Interrupted system call (os error 4)"
  | .badText => "stream did not contain valid UTF-8"
  | .checksum => "Invalid checksum"
  | .gzipHeader => "invalid gzip header"
  | .gzipChecksum => "corrupt gzip stream does not have a matching checksum"
  | .corruptData => "corrupt deflate stream"
  | .incompleteData => "incomplete deflate stream"
  | .longHeader => "gzip header field too long"
  | .truncated => "unexpected end of file"
  | .other message => message

/-- A stream: the bytes that it delivers and the fault that it ends with, if it does. -/
structure Source where
  delivered : Bytes
  fault : Option IoError := none
  deriving DecidableEq, Repr

namespace Source

/-- Reads a stream to its end. -/
def readAll (source : Source) : Except IoError Bytes :=
  match source.fault with
  | none => .ok source.delivered
  | some fault => .error fault

/-- Reads a stream to its end as text. -/
def readText (source : Source) : Except IoError (List Char) := do
  match Utf8.decode? (← source.readAll) with
  | some text => return text
  | none => throw .badText

@[simp] theorem readAll_sound (bytes : Bytes) : readAll ⟨bytes, none⟩ = .ok bytes := rfl

@[simp] theorem readAll_faulty (bytes : Bytes) (fault : IoError) :
    readAll ⟨bytes, some fault⟩ = .error fault := rfl

end Source
end Judge
