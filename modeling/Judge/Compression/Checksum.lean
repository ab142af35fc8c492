import Judge.Text.Utf8

/-!
The checksum of 32 bits that compressed files carry, and numbers written with their lowest byte
first.
-/

namespace Judge.Compression

/-- One step of the checksum: the lowest bit leaves, and flips the others of the divisor if it is
set. -/
def shiftOnce (sum : UInt32) : UInt32 :=
  if sum &&& 1 = 1 then (sum >>> 1) ^^^ 0xEDB88320 else sum >>> 1

/-- The checksum with one more byte. -/
def addByte (sum : UInt32) (byte : UInt8) : UInt32 :=
  shiftOnce (shiftOnce (shiftOnce (shiftOnce (shiftOnce (shiftOnce (shiftOnce (shiftOnce
    (sum ^^^ byte.toUInt32))))))))

/-- The checksum of bytes. -/
def checksum (bytes : Bytes) : UInt32 := bytes.foldl addByte 0xFFFFFFFF ^^^ 0xFFFFFFFF

/-- A number in a count of bytes, the lowest one first. -/
def number : Nat → Nat → Bytes
  | 0, _ => []
  | width + 1, n => UInt8.ofNat n :: number width (n / 256)

/-- The number that bytes stand for, the lowest one first. -/
def numberOf : Bytes → Nat
  | [] => 0
  | byte :: rest => byte.toNat + 256 * numberOf rest

@[simp] theorem length_number (width n : Nat) : (number width n).length = width := by
  induction width generalizing n with
  | zero => rfl
  | succ width ih => simp [number, ih]

/-- A number that fits reads back. -/
theorem numberOf_number {width n : Nat} (h : n < Nat.pow 256 width) :
    numberOf (number width n) = n := by
  induction width generalizing n with
  | zero => simp at h; simp [number, numberOf, h]
  | succ width ih =>
    have : n / 256 < Nat.pow 256 width := by
      change n < Nat.pow 256 width * 256 at h
      omega
    simp only [number, numberOf, ih this, UInt8.toNat_ofNat']
    omega

example : checksum (Utf8.ofString "123456789") = 0xCBF43926 := by decide +kernel

end Judge.Compression
