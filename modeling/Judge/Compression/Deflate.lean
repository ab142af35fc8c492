import Judge.Compression.Checksum

/-!
Compressed data: blocks of bytes as they are, and blocks in which codes of different lengths stand
for bytes and for repetitions of what came before. Blocks of all kinds are read; what is written is
kept as it is.
-/

namespace Judge.Compression

/-- Why compressed data cannot be read. -/
inductive Fault where
  | truncated
  | corrupt
  deriving DecidableEq, Repr

/-- Bytes of which some bits are taken, the lowest bit of each byte first. -/
structure Bits where
  bytes : Bytes
  /-- How many bits of the first byte are taken. -/
  taken : Nat := 0

/-- What is left to be read, and what has come out. -/
structure Inflating where
  bits : Bits
  output : Array UInt8 := #[]

/-- A step of reading compressed data; what came out before a failure stays. -/
abbrev Inflate (α : Type) := ExceptT Fault (StateM Inflating) α

/-- Takes a bit. -/
def takeBit : Inflate Nat := do
  let s ← get
  match s.bits.bytes with
  | [] => throw .truncated
  | byte :: rest =>
    let taken := s.bits.taken
    set { s with bits := if taken = 7 then ⟨rest, 0⟩ else ⟨byte :: rest, taken + 1⟩ }
    return (byte.toNat >>> taken) % 2

/-- Takes a number of bits, the lowest one first. -/
def takeNumber : Nat → Inflate Nat
  | 0 => return 0
  | count + 1 => do
    let bit ← takeBit
    return bit + 2 * (← takeNumber count)

/-- Gives out a byte. -/
def emit (byte : UInt8) : Inflate Unit := modify fun s => { s with output := s.output.push byte }

/-- The codes of an alphabet: how many there are of each length from one on, and the symbols in the
order of their codes. -/
structure Code where
  counts : List Nat
  symbols : Array Nat

namespace Code

/-- The codes that lengths lay down, zero for a symbol that does not occur. Shorter codes come
before longer ones, and codes of one length in the order of their symbols. -/
def ofLengths (lengths : List Nat) : Code where
  counts := (List.range' 1 15).map lengths.count
  symbols := ((List.range' 1 15).flatMap fun length =>
    (lengths.zipIdx.filter (·.1 == length)).map (·.2)).toArray

/-- How much room of the codes of the last length is left, if there are not too many codes. -/
def room : List Nat → Nat → Option Nat
  | [], left => some left
  | count :: rest, left => if 2 * left < count then none else room rest (2 * left - count)

/-- Whether every sequence of bits starts with exactly one code. -/
def isComplete (code : Code) : Bool := room code.counts 1 == some 0

/-- Whether there is no symbol, or one with a code of one bit. -/
def isLone (code : Code) : Bool :=
  code.symbols.size == 0 || (code.symbols.size == 1 && code.counts.head? == some 1)

/-- Takes a symbol, given the bits so far, the first code of their length and its position. -/
def takeFrom (symbols : Array Nat) : List Nat → Nat → Nat → Nat → Inflate Nat
  | [], _, _, _ => throw .corrupt
  | count :: rest, bits, first, index => do
    let bits := 2 * bits + (← takeBit)
    let first := 2 * first
    if bits < first + count then
      match symbols[index + (bits - first)]? with
      | some symbol => return symbol
      | none => throw .corrupt
    else takeFrom symbols rest bits (first + count) (index + count)

/-- Takes a symbol. Where there is at most one, a bit that is not its code has no meaning. -/
def take (code : Code) : Inflate Nat := do
  if code.isLone then
    match ← takeBit, code.symbols[0]? with
    | 0, some symbol => return symbol
    | _, _ => throw .corrupt
  else takeFrom code.symbols code.counts 0 0 0

end Code

/-- The codes for bytes and lengths that need not be given. -/
def fixedSymbols : Code := .ofLengths
  (List.replicate 144 8 ++ List.replicate 112 9 ++ List.replicate 24 7 ++ List.replicate 8 8)

/-- The codes for distances that need not be given. -/
def fixedDistances : Code := .ofLengths (List.replicate 32 5)

/-- The length that a symbol stands for: the least, and the number of bits that add to it. -/
def lengthOf? (symbol : Nat) : Option (Nat × Nat) :=
  if symbol = 285 then some (258, 0)
  else if symbol < 257 ∨ 285 < symbol then none
  else if symbol < 265 then some (symbol - 254, 0)
  else
    let extra := (symbol - 261) / 4
    some (3 + (4 + (symbol - 261) % 4) * Nat.pow 2 extra, extra)

/-- The distance that a symbol stands for: the least, and the number of bits that add to it. -/
def distanceOf? (symbol : Nat) : Option (Nat × Nat) :=
  if 29 < symbol then none
  else if symbol < 4 then some (symbol + 1, 0)
  else
    let extra := (symbol - 2) / 2
    some (1 + (2 + symbol % 2) * Nat.pow 2 extra, extra)

/-- A length or a distance with the bits that add to it. -/
def withExtra : Option (Nat × Nat) → Inflate Nat
  | none => throw .corrupt
  | some (least, extra) => return least + (← takeNumber extra)

/-- Repeats bytes that came out some way back. What lies before the start of the output is zero. -/
def repeatBack (distance : Nat) : Nat → Inflate Unit
  | 0 => return ()
  | count + 1 => do
    let output := (← get).output
    emit (if output.size < distance then 0 else (output[output.size - distance]?).getD 0)
    repeatBack distance count

/-- Reads coded bytes and repetitions up to the end of a block. -/
def inflateCoded (symbols distances : Code) : Nat → Inflate Unit
  | 0 => throw .truncated
  | fuel + 1 => do
    let symbol ← symbols.take
    if symbol < 256 then
      emit (UInt8.ofNat symbol)
      inflateCoded symbols distances fuel
    else if symbol = 256 then return ()
    else
      let length ← withExtra (lengthOf? symbol)
      let distance ← withExtra (distanceOf? (← distances.take))
      repeatBack distance length
      inflateCoded symbols distances fuel

/-- Skips to the next byte and takes a number of bytes. -/
def takeBytes (count : Nat) : Inflate Bytes := do
  let s ← get
  let bytes := if s.bits.taken = 0 then s.bits.bytes else s.bits.bytes.drop 1
  set { s with bits := ⟨bytes.drop count, 0⟩ }
  if bytes.length < count then throw .truncated
  return bytes.take count

/-- Reads a block that is kept as it is. -/
def inflateStored : Inflate Unit := do
  let size := numberOf (← takeBytes 2)
  let complement := numberOf (← takeBytes 2)
  if size + complement ≠ 0xFFFF then throw .corrupt
  for byte in ← takeBytes size do emit byte

/-- The order in which the lengths of the codes for lengths are given. -/
def lengthOrder : List Nat := [16, 17, 18, 0, 8, 7, 9, 6, 10, 5, 11, 4, 12, 3, 13, 2, 14, 1, 15]

/-- Reads lengths of codes, in reverse, up to a count. -/
def takeLengths (code : Code) (count : Nat) : Nat → List Nat → Inflate (List Nat)
  | 0, _ => throw .corrupt
  | fuel + 1, lengths => do
    if count < lengths.length then throw .corrupt
    if lengths.length = count then return lengths
    let symbol ← code.take
    if symbol < 16 then takeLengths code count fuel (symbol :: lengths)
    else
      let (bits, least) := if symbol = 16 then (2, 3) else if symbol = 17 then (3, 3) else (7, 11)
      let times := least + (← takeNumber bits)
      let length ← if symbol = 16 then
          match lengths with
          | length :: _ => pure length
          | [] => throw .corrupt
        else pure 0
      takeLengths code count fuel (List.replicate times length ++ lengths)

/-- Reads a block that gives its own codes. The alphabet of lengths leaves no bits without a
meaning; the other two may have no symbol or a lone one instead. -/
def inflateDynamic (fuel : Nat) : Inflate Unit := do
  let symbols := 257 + (← takeNumber 5)
  let distances := 1 + (← takeNumber 5)
  let given := 4 + (← takeNumber 4)
  if 286 < symbols || 30 < distances then throw .corrupt
  let mut lengths := List.replicate 19 0
  for place in lengthOrder.take given do
    lengths := lengths.set place (← takeNumber 3)
  let code := Code.ofLengths lengths
  unless code.isComplete do throw .corrupt
  let total := symbols + distances
  let all := (← takeLengths code total (total + 1) []).reverse
  let symbolCode := Code.ofLengths (all.take symbols)
  let distanceCode := Code.ofLengths (all.drop symbols)
  unless (distanceCode.isComplete || distanceCode.isLone) &&
      (symbolCode.isComplete || symbolCode.isLone) do throw .corrupt
  inflateCoded symbolCode distanceCode fuel

/-- Reads blocks up to the last one. -/
def inflateBlocks : Nat → Inflate Unit
  | 0 => throw .truncated
  | fuel + 1 => do
    let last ← takeBit
    match ← takeNumber 2 with
    | 0 => inflateStored
    | 1 => inflateCoded fixedSymbols fixedDistances fuel
    | 2 => inflateDynamic fuel
    | _ => throw .corrupt
    if last = 0 then inflateBlocks fuel

/-- How much output is collected before it is delivered. -/
def window : Nat := 32768

/-- What comes out of compressed data, and the bytes behind it or what is wrong. Where data are
corrupt, what was being collected is lost; where they end too early, it is not. -/
def inflate (bytes : Bytes) : Bytes × Except Fault Bytes :=
  let action : Inflate Bytes := do
    inflateBlocks (8 * bytes.length + 1)
    let bits := (← get).bits
    return if bits.taken = 0 then bits.bytes else bits.bytes.drop 1
  let (result, s) := action.run { bits := ⟨bytes, 0⟩ }
  let output := s.output.toList
  match result with
  | .error .corrupt => (output.take ((output.length - 1) / window * window), result)
  | _ => (output, result)

/-- A block of bytes as they are. -/
def storedBlock (last : Bool) (bytes : Bytes) : Bytes :=
  (if last then 1 else 0) :: number 2 bytes.length ++ number 2 (0xFFFF - bytes.length) ++ bytes

/-- Compressed data that keeps bytes as they are, in blocks of limited size. -/
def deflate (bytes : Bytes) : Bytes :=
  if bytes.length ≤ 0xFFFF then storedBlock true bytes
  else storedBlock false (bytes.take 0xFFFF) ++ deflate (bytes.drop 0xFFFF)
termination_by bytes.length
decreasing_by simp; omega

end Judge.Compression
