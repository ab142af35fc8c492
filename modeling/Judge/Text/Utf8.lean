/-!
UTF-8: encoding, strict decoding and decoding with replacement. Decoding reads one well-formed
sequence, or the longest start of one, at a time; `decode` keeps the two cases apart.
-/

namespace Judge

/-- The contents of a file or a stream. -/
abbrev Bytes := List UInt8

namespace Utf8

/-- The UTF-8 encoding of a text. -/
def encode (text : List Char) : Bytes := text.flatMap String.utf8EncodeChar

/-- The encoding of a string. -/
def ofString (text : String) : Bytes := encode text.toList

/-- A byte that continues a sequence. -/
def isContinuation (b : UInt8) : Bool := 0x80 ≤ b && b ≤ 0xBF

/-- The second bytes that may follow a leading byte. -/
def isSecond (lead b : UInt8) : Bool :=
  if lead == 0xE0 then 0xA0 ≤ b && b ≤ 0xBF
  else if lead == 0xED then 0x80 ≤ b && b ≤ 0x9F
  else if lead == 0xF0 then 0x90 ≤ b && b ≤ 0xBF
  else if lead == 0xF4 then 0x80 ≤ b && b ≤ 0x8F
  else isContinuation b

/-- The six bits that a continuation byte carries. -/
def payload (b : UInt8) : Nat := b.toNat % 64

/-- The character that starts with byte `lead`, none if the sequence is cut short or ill-formed,
and how many of the following bytes belong to it. -/
def next (lead : UInt8) (rest : Bytes) : Option Char × Nat :=
  if lead < 0x80 then (some (Char.ofNat lead.toNat), 0)
  else if 0xC2 ≤ lead && lead ≤ 0xDF then
    match rest with
    | b :: _ =>
      if isContinuation b then (some (Char.ofNat (lead.toNat % 32 * 64 + payload b)), 1)
      else (none, 0)
    | [] => (none, 0)
  else if 0xE0 ≤ lead && lead ≤ 0xEF then
    match rest with
    | b :: rest =>
      if isSecond lead b then
        match rest with
        | d :: _ =>
          if isContinuation d then
            (some (Char.ofNat (lead.toNat % 16 * 4096 + payload b * 64 + payload d)), 2)
          else (none, 1)
        | [] => (none, 1)
      else (none, 0)
    | [] => (none, 0)
  else if 0xF0 ≤ lead && lead ≤ 0xF4 then
    match rest with
    | b :: rest =>
      if isSecond lead b then
        match rest with
        | d :: rest =>
          if isContinuation d then
            match rest with
            | e :: _ =>
              if isContinuation e then
                (some (Char.ofNat
                  (lead.toNat % 8 * 262144 + payload b * 4096 + payload d * 64 + payload e)), 3)
              else (none, 2)
            | [] => (none, 2)
          else (none, 1)
        | [] => (none, 1)
      else (none, 0)
    | [] => (none, 0)
  else (none, 0)

/-- The characters of a byte sequence, with `none` for each ill-formed stretch. -/
def decode : Bytes → List (Option Char)
  | [] => []
  | lead :: rest =>
    let (c, used) := next lead rest
    c :: decode (rest.drop used)
termination_by bytes => bytes.length
decreasing_by simp only [List.length_drop, List.length_cons]; omega

/-- The text that the bytes encode, if they are well-formed. -/
def decode? (bytes : Bytes) : Option (List Char) := (decode bytes).mapM id

/-- The text with U+FFFD in the place of each ill-formed stretch. -/
def decodeLossy (bytes : Bytes) : List Char := (decode bytes).map (·.getD '\uFFFD')

@[simp] theorem encode_nil : encode [] = [] := rfl

@[simp] theorem encode_append (a b : List Char) : encode (a ++ b) = encode a ++ encode b := by
  simp [encode]

@[simp] theorem decode_nil : decode [] = [] := by rw [decode]

/-- An ASCII byte stands for itself. -/
theorem decode_cons_ascii {b : UInt8} (h : b < 0x80) (rest : Bytes) :
    decode (b :: rest) = some (Char.ofNat b.toNat) :: decode rest := by
  rw [decode]
  simp [next, h]

end Utf8
end Judge
