import Judge.Archive.Container.Item
import Judge.Compression.Deflate

/-!
Reading zip files: the last record that leads to a directory of sound items counts. An entry whose
data cannot be had is an entry with a damage.
-/

namespace Judge.Archive.Container

open Compression (checksum inflate)

/-- The data of an item and the fault they end with, given the bytes that are kept. -/
def Item.contents (item : Item) (kept : Bytes) : Source :=
  let (data, fault) := if item.method = 0 then (kept, none) else
    match inflate kept with
    | (data, .ok _) => (data, none)
    | (data, .error .truncated) => (data, some .incompleteData)
    | (data, .error .corrupt) => (data, some .corruptData)
  if fault.isNone ∧ (checksum data).toNat ≠ item.sum then ⟨data, some .checksum⟩
  else ⟨data, fault⟩

/-- Opens an item of a file. -/
def Item.opened (file : Bytes) (item : Item) : Except ZipError Source := do
  if item.flags.testBit 0 then throw .encrypted
  match slice file item.offset 30 with
  | none => throw (.io .truncated)
  | some header =>
    if header.take 4 ≠ headerSignature then throw .noHeader
    if item.method ≠ 0 ∧ item.method ≠ 8 then throw .method
    if item.newEncryption then throw .password
    let start := item.offset + 30 + fieldAt header 26 2 + fieldAt header 28 2
    return item.contents ((file.drop start).take item.size)

/-- The entry of an item. -/
def Item.entry (file : Bytes) (item : Item) : Entry :=
  match item.opened file with
  | .ok source => ⟨String.ofList item.name, source.delivered, source.fault.map .reading⟩
  | .error cause => ⟨String.ofList item.name, [], some (.opening cause)⟩

/-- Entries with one more: a later one takes the place of an earlier one of its name. -/
def addEntry (entries : List Entry) (entry : Entry) : List Entry :=
  if entries.any (·.name == entry.name) then
    entries.map fun e => if e.name == entry.name then entry else e
  else entries ++ [entry]

/-- The items that a record at the end leads to: why it cannot be one, or the items, none if they
are not sound. -/
def itemsFrom (file : Bytes) (ending : Ending) : Except ZipError (Option (List Item)) := do
  return (← findDirectory file ending).bind fun directory =>
    Item.listAt? file directory directory.count directory.start

/-- The items of a file whose record at the end may be at one of the positions, given in descending
order, and the fault so far. A record that is refused sets the fault, one that is cut short sets it
if there is none, and one that leads to unsound items takes it away. -/
def itemsOf (file : Bytes) (fault : Option ZipError) : List Nat → Except ZipError (List Item)
  | [] => .error (fault.getD (.layout .noEnding))
  | position :: rest =>
    match Ending.at? file position with
    | none => itemsOf file (fault <|> some (.io .truncated)) rest
    | some ending =>
      match itemsFrom file ending with
      | .error cause => itemsOf file (some cause) rest
      | .ok none => itemsOf file none rest
      | .ok (some items) => .ok items

/-- The entries of a zip file. -/
def read (file : Bytes) : Except ZipError (List Entry) := do
  let positions := (offsetsBetween file endingSignature 0 file.length).reverse
  return ((← itemsOf file none positions).map (Item.entry file)).foldl addEntry []

end Judge.Archive.Container
