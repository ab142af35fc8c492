import Judge.Stream

/-!
Zip archives as lists of entries. Opening an entry and reading it can fail in ways that belong to
the entry, and entries of one name cannot be written twice.
-/

namespace Judge.Archive

/-- Why the directory of a zip file is not found. -/
inductive LayoutFault where
  /-- There is no record that ends the file. -/
  | noEnding
  /-- The directory would start behind the record that tells where it is. -/
  | directoryBehind
  /-- There is no item where the directory should be. -/
  | noItem
  /-- The wide record would start behind the record that tells where it is. -/
  | wideBehind
  | severalDisks
  | noWideEnding
  | wideTooShort
  | wideTooLong
  | wideOnOtherDisk
  | wideLengthDiffers
  | wideCountDiffers
  deriving DecidableEq, Repr

/-- The wording of each cause. -/
def LayoutFault.message : LayoutFault → String
  | .noEnding => "Could not find EOCD"
  | .directoryBehind => "Invalid CDFH offset in EOCD"
  | .noItem => "No CDFH found"
  | .wideBehind => "Invalid EOCD64 Locator CD offset"
  | .severalDisks => "Multi-disk ZIP files are not supported"
  | .noWideEnding => "Could not find EOCD64"
  | .wideTooShort => "Low EOCD64 record size"
  | .wideTooLong => "EOCD64 extends beyond EOCD64 locator"
  | .wideOnOtherDisk => "Invalid EOCD64: inconsistency with Locator data"
  | .wideLengthDiffers => "Invalid EOCD64: inconsistent length"
  | .wideCountDiffers => "Invalid EOCD64: inconsistent number of files"

/-- Why an archive cannot be read or written. -/
inductive ZipError where
  | encrypted
  | method
  | password
  | noSuchEntry
  | noHeader
  | layout (cause : LayoutFault)
  | duplicateName (name : String)
  | io (cause : IoError)
  deriving DecidableEq, Repr

/-- The wording of each cause. -/
def ZipError.message : ZipError → String
  | .encrypted => "unsupported Zip archive: Password required to decrypt file"
  | .method => "unsupported Zip archive: Compression method not supported"
  | .password => "provided password is incorrect"
  | .noSuchEntry => "specified file not found in archive"
  | .noHeader => "invalid Zip archive: Invalid local file header"
  | .layout cause => "invalid Zip archive: " ++ cause.message
  | .duplicateName name => "invalid Zip archive: Duplicate filename: " ++ name
  | .io _ => "i/o error"

/-- What is wrong with an entry. -/
inductive Damage where
  /-- It does not open. -/
  | opening (cause : ZipError)
  /-- Reading delivers the data and then fails. -/
  | reading (fault : IoError)
  deriving DecidableEq, Repr

/-- An entry of an archive. -/
structure Entry where
  name : String
  data : Bytes
  damage : Option Damage := none
  deriving DecidableEq, Repr

namespace Entry

/-- Whether an entry is a directory, as its name says. -/
def isDirectory (entry : Entry) : Bool :=
  match entry.name.toList.getLast? with
  | some c => c == '/' || c == '\\'
  | none => false

/-- Opens an entry for reading. -/
def opened (entry : Entry) : Except ZipError Source :=
  match entry.damage with
  | none => .ok ⟨entry.data, none⟩
  | some (.reading fault) => .ok ⟨entry.data, some fault⟩
  | some (.opening cause) => .error cause

end Entry

/-- Opens the entry at a position. -/
def openAt (entries : List Entry) (index : Nat) : Except ZipError (Entry × Source) :=
  match entries[index]? with
  | none => .error .noSuchEntry
  | some entry => entry.opened.map (entry, ·)

end Judge.Archive
