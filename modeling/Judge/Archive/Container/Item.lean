import Judge.Archive.Container
import Judge.Text.Raw

/-!
The items of the directory of a zip file. Extra data may widen the numbers of an item, or give its
name or its comment once more in UTF-8.
-/

namespace Judge.Archive.Container

open Compression (checksum numberOf)

/-- An item of the directory: the checksum and the kept size of the data, where the header of the
entry is, the name and the comment as they are kept and as they read, and whether the data are said
to be encrypted by a newer scheme. -/
structure Item where
  flags : Nat
  method : Nat
  sum : Nat
  size : Nat
  plainSize : Nat
  offset : Nat
  rawName : Bytes
  name : List Char
  comment : List Char
  newEncryption : Bool := false
  deriving DecidableEq, Repr

/-- Why extra data are not read on: they end too early, or they are not what they should be. -/
inductive ExtraStop where
  | short
  | invalid
  deriving DecidableEq, Repr

/-- A step of reading extra data, which changes the item; what it changed before stopping stays. -/
abbrev Extra (α : Type) := ExceptT ExtraStop (StateM (Bytes × Item)) α

namespace Extra

/-- Takes a number of bytes. -/
def takeBytes (count : Nat) : Extra Bytes := do
  let (bytes, item) ← get
  let taken := bytes.take count
  set (bytes.drop count, item)
  if taken.length < count then throw .short
  return taken

/-- Takes a number. -/
def takeNumber (width : Nat) : Extra Nat := return numberOf (← takeBytes width)

/-- Changes the item. -/
def change (f : Item → Item) : Extra Unit := modify fun (bytes, item) => (bytes, f item)

/-- Goes on only if a condition holds. -/
def require (condition : Bool) : Extra Unit := unless condition do throw .invalid

/-- The number of a record that says to look for it in the extra data. -/
def wide : Nat := 0xFFFFFFFF

/-- Reads the numbers of 64 bits of those fields that need them, or of all. -/
def readWide (length : Nat) : Extra Unit := do
  let all : Bool := 24 ≤ length
  let mut used := 0
  if all || (← get).2.plainSize == wide then
    let n ← takeNumber 8
    change fun item => { item with plainSize := n }
    used := used + 8
  if all || (← get).2.size == wide then
    let n ← takeNumber 8
    change fun item => { item with size := n }
    used := used + 8
  if all || (← get).2.offset == wide then
    let n ← takeNumber 8
    change fun item => { item with offset := n }
    used := used + 8
  require (used ≤ length)
  let _ ← takeBytes (length - used)

/-- Reads times in steps of 100 nanoseconds. -/
def readFineTimes (length : Nat) : Extra Unit := do
  require (length == 32)
  let _ ← takeBytes 4
  require ((← takeNumber 2) == 1)
  require ((← takeNumber 2) == 24)
  let _ ← takeBytes 24

/-- Reads times in seconds. -/
def readTimes (length : Nat) : Extra Unit := do
  let flags ← takeNumber 1
  let count := ((List.range 8).filter flags.testBit).length
  require (length == 5 || length == 1 + 4 * count)
  let times := ((if flags.testBit 0 || length == 5 then 1 else 0) +
    (if flags.testBit 1 && 5 < length then 1 else 0) +
    (if flags.testBit 2 && 5 < length then 1 else 0))
  for _ in List.range times do
    let _ ← takeBytes 4

/-- Reads the data of a newer encryption, which hide the method of compression. -/
def readEncryption (length : Nat) : Extra Unit := do
  require (length == 7)
  let version ← takeNumber 2
  let vendor ← takeNumber 2
  let strength ← takeNumber 1
  let method ← takeNumber 2
  require (vendor == 0x4541)
  require (version == 1 || version == 2)
  require (1 ≤ strength && strength ≤ 3)
  change fun item => { item with newEncryption := true, method }

/-- Reads a text in UTF-8 that stands for another one, whose checksum it gives. -/
def readText (length : Nat) (other : Item → Bytes) : Extra Bytes := do
  let _ ← takeBytes 1
  let sum ← takeNumber 4
  require (5 ≤ length)
  let text ← takeBytes (length - 5)
  require (sum == (checksum (other (← get).2)).toNat)
  return text

/-- Reads a piece of extra data of a kind. -/
def readPiece (kind length : Nat) : Extra Unit := do
  match kind with
  | 0x0001 => readWide length
  | 0x000A => readFineTimes length
  | 0x9901 => readEncryption length
  | 0x5455 => readTimes length
  | 0x6375 =>
    match Utf8.decode? (← readText length fun item => Utf8.encode item.comment) with
    | some comment => change fun item => { item with comment }
    | none => throw .invalid
  | 0x7075 =>
    let rawName ← readText length (·.rawName)
    change fun item => { item with rawName }
    match Utf8.decode? rawName with
    | some name => change fun item => { item with name }
    | none => throw .invalid
  | _ => let _ ← takeBytes length

/-- Reads extra data to their end. -/
def readPieces : Nat → Extra Unit
  | 0 => return ()
  | fuel + 1 => do
    if (← get).1.isEmpty then return ()
    let kind ← takeNumber 2
    let length ← takeNumber 2
    readPiece kind length
    readPieces fuel

end Extra

/-- An item as its extra data change it, if they are what they should be. Extra data that end too
early change what they got to. -/
def Item.withExtra (item : Item) (extra : Bytes) : Option Item :=
  match (Extra.readPieces extra.length).run (extra, item) with
  | (.error .invalid, _) => none
  | (_, (_, item)) => some item

/-- How names and comments read: as UTF-8 if the flags say so. -/
def readName (flags : Nat) (raw : Bytes) : List Char :=
  if flags.testBit 11 then Utf8.decodeLossy raw else Text.Codepage.decode raw

/-- The method that says that the method is hidden. -/
def hiddenMethod : Nat := 99

/-- The item at an offset of a file, and where the next one starts. The entry must start before the
directory. -/
def Item.at? (file : Bytes) (directory : Directory) (offset : Nat) : Option (Item × Nat) := do
  let record ← slice file offset 46
  if record.take 4 ≠ itemSignature then failure
  let flags := fieldAt record 8 2
  let nameEnd := offset + 46 + fieldAt record 28 2
  let extraEnd := nameEnd + fieldAt record 30 2
  let next := extraEnd + fieldAt record 32 2
  let rawName ← slice file (offset + 46) (nameEnd - (offset + 46))
  let extra ← slice file nameEnd (extraEnd - nameEnd)
  let comment ← slice file extraEnd (next - extraEnd)
  let item : Item := {
    flags
    method := fieldAt record 10 2
    sum := fieldAt record 16 4
    size := fieldAt record 20 4
    plainSize := fieldAt record 24 4
    offset := fieldAt record 42 4
    rawName
    name := readName flags rawName
    comment := readName flags comment }
  let item ← item.withExtra extra
  if item.method = hiddenMethod ∧ !item.newEncryption then failure
  if directory.start ≤ item.offset + directory.shift then failure
  return ({ item with offset := item.offset + directory.shift }, next)

/-- A number of items from an offset on. -/
def Item.listAt? (file : Bytes) (directory : Directory) : Nat → Nat → Option (List Item)
  | 0, _ => some []
  | count + 1, offset => do
    let (item, next) ← Item.at? file directory offset
    return item :: (← Item.listAt? file directory count next)

end Judge.Archive.Container
