import Judge.Text.Utf8

/-!
Texts of bytes: each byte stands as the character of its number, so that a program that works on
bytes can be written with characters; or as the character of a code page, which are those of ASCII and
128 others.
-/

namespace Judge

/-- A text of bytes, each as the character of its number. -/
abbrev Raw := List Char

namespace Raw

/-- The text of bytes. -/
def ofBytes (bytes : Bytes) : Raw := bytes.map fun b => Char.ofNat b.toNat

/-- The bytes of a text. -/
def toBytes (text : Raw) : Bytes := text.map fun c => UInt8.ofNat c.toNat

/-- The bytes of a string as a text. -/
def ofString (text : String) : Raw := ofBytes (Utf8.ofString text)

/-- The string that a text of bytes encodes. -/
def toString (text : Raw) : String := String.ofList (Utf8.decodeLossy (toBytes text))

theorem toNat_ofNat_toNat (b : UInt8) : (Char.ofNat b.toNat).toNat = b.toNat := by
  have h : b.toNat < 256 := b.toNat_lt
  have hv : b.toNat.isValidChar := Or.inl (by omega)
  unfold Char.ofNat
  rw [dif_pos hv]
  rfl

/-- Nothing is lost in the text of bytes. -/
theorem toBytes_ofBytes (bytes : Bytes) : toBytes (ofBytes bytes) = bytes := by
  induction bytes with
  | nil => rfl
  | cons b rest ih =>
    simp only [ofBytes, toBytes, List.map_cons, List.map_map] at ih ⊢
    rw [ih, toNat_ofNat_toNat, UInt8.ofNat_toNat]

end Raw

end Judge

namespace Judge.Text.Codepage

/-- The characters that the bytes from 128 on stand for. -/
def upper : List Char :=
  ("ÇüéâäàåçêëèïîìÄÅÉæÆôöòûùÿÖÜ¢£¥₧ƒ" ++
    "áíóúñÑªº¿⌐¬½¼¡«»░▒▓│┤╡╢╖╕╣║╗╝╜╛┐" ++
    "└┴┬├─┼╞╟╚╔╩╦╠═╬╧╨╤╥╙╘╒╓╫╪┘┌█▄▌▐▀" ++
    "αßΓπΣσµτΦΘΩδ∞φε∩≡±≥≤⌠⌡÷≈°∙·√ⁿ²■\u00A0").toList

/-- The character that a byte stands for. -/
def charOf (b : UInt8) : Char :=
  if b < 0x80 then Char.ofNat b.toNat else upper[b.toNat - 128]?.getD '\uFFFD'

/-- The text that bytes stand for. -/
def decode (bytes : Bytes) : List Char := bytes.map charOf

end Judge.Text.Codepage
