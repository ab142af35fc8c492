import Judge.Archive.Entry
import Judge.Compression.Checksum

/-!
Zip files: each entry behind a header of its own, then a directory of all entries, then a record
that tells where the directory is. Entries are written without compression.

In a file that is read, a wide record, announced by a locator, tells where the directory is if the file
outgrows the numbers of the record at the end. Anything may stand before the archive: offsets count from
where the archive starts, and the first signature that fits says where that is.
-/

namespace Judge.Archive.Container

open Compression (number checksum)

/-- The bytes that a local header starts with. -/
def headerSignature : Bytes := number 4 0x04034B50

/-- The bytes that an item of the directory starts with. -/
def itemSignature : Bytes := number 4 0x02014B50

/-- The bytes that the record at the end starts with. -/
def endingSignature : Bytes := number 4 0x06054B50

/-- What both headers of an entry say: versions, flags for names in UTF-8, no compression, no time,
checksum, sizes and the length of the name. -/
def commonHeader (entry : Entry) : Bytes :=
  number 2 20 ++ number 2 0x0800 ++ number 2 0 ++ number 4 0x00210000 ++
    number 4 (checksum entry.data).toNat ++ number 4 entry.data.length ++
    number 4 entry.data.length ++ number 2 (Utf8.ofString entry.name).length ++ number 2 0

/-- An entry with its header. -/
def record (entry : Entry) : Bytes :=
  headerSignature ++ commonHeader entry ++ Utf8.ofString entry.name ++ entry.data

/-- The item of an entry in the directory, given where its record starts. -/
def item (entry : Entry) (offset : Nat) : Bytes :=
  itemSignature ++ number 2 0x0314 ++ commonHeader entry ++ number 2 0 ++ number 2 0 ++
    number 2 0 ++ number 4 0x81A40000 ++ number 4 offset ++ Utf8.ofString entry.name

/-- The directory of entries whose records start at an offset. -/
def directory : Nat → List Entry → Bytes
  | _, [] => []
  | offset, entry :: rest =>
    item entry offset ++ directory (offset + (record entry).length) rest

/-- The record at the end: the number of entries, and the size and the offset of the directory. -/
def ending (count size offset : Nat) : Bytes :=
  endingSignature ++ number 2 0 ++ number 2 0 ++ number 2 count ++ number 2 count ++
    number 4 size ++ number 4 offset ++ number 2 0

/-- The zip file of entries. -/
def write (entries : List Entry) : Bytes :=
  let records := entries.flatMap record
  let items := directory 0 entries
  records ++ items ++ ending entries.length items.length records.length

/-! ### Where the directory is -/

open Compression (number numberOf)

/-- A number of bytes at an offset, if they are there. -/
def slice (file : Bytes) (offset count : Nat) : Option Bytes :=
  let bytes := (file.drop offset).take count
  if bytes.length = count then some bytes else none

/-- A number at an offset of a record, zero where it ends. -/
def fieldAt (record : Bytes) (offset width : Nat) : Nat :=
  numberOf ((record.drop offset).take width)

/-- The offsets from `low` on at which a signature stands, given the bytes from there. -/
def offsetsOf (signature : Bytes) (low : Nat) : Bytes → List Nat
  | [] => []
  | b :: rest =>
    if signature.isPrefixOf (b :: rest) then low :: offsetsOf signature (low + 1) rest
    else offsetsOf signature (low + 1) rest

/-- The offsets of a signature that lies between two offsets. -/
def offsetsBetween (file : Bytes) (signature : Bytes) (low high : Nat) : List Nat :=
  offsetsOf signature low ((file.take high).drop low)

/-- What the record at the end says: the disks of the record and of the directory, the number of
items here and on all disks, and where the directory starts. -/
structure Ending where
  position : Nat
  disk : Nat
  directoryDisk : Nat
  countHere : Nat
  count : Nat
  offset : Nat
  deriving DecidableEq, Repr

/-- The record at a position, whose comment must be there too. -/
def Ending.at? (file : Bytes) (position : Nat) : Option Ending := do
  let record ← slice file position 22
  let _ ← slice file (position + 22) (fieldAt record 20 2)
  return {
    position
    disk := fieldAt record 4 2
    directoryDisk := fieldAt record 6 2
    countHere := fieldAt record 8 2
    count := fieldAt record 10 2
    offset := fieldAt record 16 4 }

/-- Whether there may be a wide record. -/
def Ending.mayBeWide (ending : Ending) : Bool :=
  ending.count == 0xFFFF || ending.offset == 0xFFFFFFFF

/-- What announces a wide record: its own position, the disk of the directory, where the wide record
is and the number of disks. -/
structure Locator where
  position : Nat
  directoryDisk : Nat
  offset : Nat
  disks : Nat
  deriving DecidableEq, Repr

/-- The locator before a record, if there is one. -/
def Locator.before? (file : Bytes) (ending : Ending) : Option Locator := do
  if ending.position < 20 then failure
  let position := ending.position - 20
  let record ← slice file position 20
  if record.take 4 ≠ number 4 0x07064B50 then failure
  return {
    position
    directoryDisk := fieldAt record 4 4
    offset := fieldAt record 8 8
    disks := fieldAt record 16 4 }

/-- Where a directory is: its start, how far the archive is shifted, and how many items there are.
-/
structure Directory where
  start : Nat
  shift : Nat
  count : Nat
  deriving DecidableEq, Repr

/-- The directory that the record at the end tells of, if it lies on the disk of the record. -/
def Ending.directory (ending : Ending) (shift : Nat) : Option Directory :=
  if ending.disk = ending.directoryDisk then some ⟨ending.offset + shift, shift, ending.countHere⟩
  else none

/-- What comes of a wide record: why it cannot be one, or the directory that it tells of, none if
what it says of the directory cannot be. -/
def wideDirectory (file : Bytes) (locator : Locator) (position : Nat) :
    Except ZipError (Option Directory) := do
  match slice file position 56 with
  | none => throw (.io .truncated)
  | some record =>
    let size := fieldAt record 4 8
    let room := locator.position - position
    if size < 44 then throw (.layout .wideTooShort)
    if room < size + 12 then throw (.layout .wideTooLong)
    let directoryDisk := fieldAt record 20 4
    if directoryDisk ≠ locator.directoryDisk then throw (.layout .wideOnOtherDisk)
    if size + 12 ≠ room then throw (.layout .wideLengthDiffers)
    let count := fieldAt record 32 8
    let offset := fieldAt record 48 8
    if position < count * 46 + offset then throw (.layout .wideCountDiffers)
    let shift := position - locator.offset
    if count < fieldAt record 24 8 || fieldAt record 12 2 < fieldAt record 14 2 ||
        fieldAt record 16 4 ≠ directoryDisk then
      return none
    return some ⟨offset + shift, shift, count⟩

/-- The first wide record that is one, of those at positions; else what is wrong with the last. -/
def firstWide (file : Bytes) (locator : Locator) (fault : ZipError) :
    List Nat → Except ZipError (Option Directory)
  | [] => .error fault
  | position :: rest =>
    match wideDirectory file locator position with
    | .ok directory => .ok directory
    | .error fault => firstWide file locator fault rest

/-- The signature of a wide record. -/
def wideSignature : Bytes := number 4 0x06064B50

/-- The directory of an archive without a wide record. -/
def narrowDirectory (file : Bytes) (ending : Ending) : Except ZipError (Option Directory) := do
  if ending.count = 0 then return ending.directory (ending.position - ending.offset)
  if ending.position ≤ ending.offset then throw (.layout .directoryBehind)
  match offsetsBetween file itemSignature ending.offset ending.position with
  | [] => throw (.layout .noItem)
  | start :: _ => return ending.directory (start - ending.offset)

/-- The directory that the record at the end of an archive leads to; none if what is said of it
cannot be. -/
def findDirectory (file : Bytes) (ending : Ending) : Except ZipError (Option Directory) := do
  match if ending.mayBeWide then Locator.before? file ending else none with
  | none => narrowDirectory file ending
  | some locator =>
    if locator.position ≤ locator.offset then throw (.layout .wideBehind)
    if 1 < locator.disks then throw (.layout .severalDisks)
    firstWide file locator (.layout .noWideEnding)
      (offsetsBetween file wideSignature locator.offset locator.position)

end Judge.Archive.Container
