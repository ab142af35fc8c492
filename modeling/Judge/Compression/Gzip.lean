import Judge.Compression.Deflate
import Judge.Stream

/-!
Compressed files: a header, compressed data, and the checksum and size of what comes out.
-/

namespace Judge.Compression.Gzip

/-- The first bytes of a header. -/
def signature : Bytes := [0x1F, 0x8B, 8]

/-- A compressed file. -/
def compress (bytes : Bytes) : Bytes :=
  signature ++ [0, 0, 0, 0, 0, 0, 255] ++ deflate bytes ++
    number 4 (checksum bytes).toNat ++ number 4 (bytes.length % 4294967296)

/-- The flags of a header that announce nothing known. -/
def reserved : Nat := 0xE0

/-- The longest name or comment of a header. -/
def longestText : Nat := 65535

/-- Drops a text with the zero that ends it. -/
def dropText (bytes : Bytes) : Except IoError Bytes :=
  let text := bytes.takeWhile (· != 0)
  match bytes.drop text.length with
  | [] => .error (if longestText < text.length then .longHeader else .truncated)
  | _ :: rest => if longestText < text.length then .error .longHeader else .ok rest

/-- Drops a number of bytes that must be there. -/
def dropExactly (count : Nat) (bytes : Bytes) : Except IoError Bytes :=
  if bytes.length < count then .error .truncated else .ok (bytes.drop count)

/-- The bytes behind what the flags of a header announce: extra data, a name, a comment and a
checksum of the header, given the start of the header. -/
def dropOptions (flags : Nat) (start bytes : Bytes) : Except IoError Bytes := do
  let afterExtra ← if flags.testBit 2 then
      dropExactly (2 + numberOf (bytes.take 2)) bytes else pure bytes
  let afterName ← if flags.testBit 3 then dropText afterExtra else pure afterExtra
  let afterComment ← if flags.testBit 4 then dropText afterName else pure afterName
  if flags.testBit 1 then
    let rest ← dropExactly 2 afterComment
    let header := start ++ bytes.take (bytes.length - afterComment.length)
    if numberOf (afterComment.take 2) ≠ (checksum header).toNat % 65536 then throw .gzipChecksum
    return rest
  else return afterComment

/-- The compressed data behind a header. -/
def body (file : Bytes) : Except IoError Bytes := do
  if file.length < 10 then throw .truncated
  let flags := (file[3]?.getD 0).toNat
  if file.take 3 ≠ signature ∨ flags &&& reserved ≠ 0 then throw .gzipHeader
  dropOptions flags (file.take 10) (file.drop 10)

/-- The stream that comes out of a compressed file. -/
def decompress (file : Bytes) : Source :=
  match body file with
  | .error cause => ⟨[], some cause⟩
  | .ok body =>
    match inflate body with
    | (output, .error .truncated) => ⟨output, some .incompleteData⟩
    | (output, .error .corrupt) => ⟨output, some .corruptData⟩
    | (output, .ok rest) =>
      if rest.length < 8 then ⟨output, some .truncated⟩
      else if numberOf (rest.take 4) ≠ (checksum output).toNat ∨
          numberOf ((rest.drop 4).take 4) ≠ output.length % 4294967296 then
        ⟨output, some .gzipChecksum⟩
      else ⟨output, none⟩

end Judge.Compression.Gzip
