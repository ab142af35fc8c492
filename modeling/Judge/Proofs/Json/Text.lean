import Mathlib.Tactic.Lemma
import Judge.Json.Reader
import Judge.Json.Writer
import Judge.Proofs.Text.Lines

/-!
Texts are read back as they were written: an escape is read as the character that it stands for, and
the bytes of every other character are taken one by one.
-/

namespace Judge.Json

open Utf8 (encode)

/-- The characters that the bytes of a text are read as. -/
def wire (text : List Char) : List Char := (encode text).map charOf

@[simp] lemma wire_nil : wire [] = [] := rfl

@[simp] lemma wire_append (a b : List Char) : wire (a ++ b) = wire a ++ wire b := by
  simp [wire]

lemma wire_cons (c : Char) (text : List Char) :
    wire (c :: text) = (String.utf8EncodeChar c).map charOf ++ wire text := by
  simp [wire, encode, List.flatMap_cons]

lemma encodeChar_ascii {c : Char} (h : c.toNat < 128) :
    String.utf8EncodeChar c = [UInt8.ofNat c.toNat] := by
  have hone : c.val.toNat ≤ 127 := Nat.le_of_lt_succ h
  rw [String.utf8EncodeChar, if_pos hone]
  rfl

lemma charOf_ofNat {c : Char} (h : c.toNat < 128) : charOf (UInt8.ofNat c.toNat) = c := by
  rw [charOf, Utf8.toNat_ofNat (by omega), Char.ofNat_toNat]

/-- An ASCII character is read as itself. -/
lemma wire_cons_ascii {c : Char} (h : c.toNat < 128) (text : List Char) :
    wire (c :: text) = c :: wire text := by
  rw [wire_cons, encodeChar_ascii h, List.map_singleton, charOf_ofNat h, List.singleton_append]

lemma wire_ascii {text : List Char} (h : ∀ c ∈ text, c.toNat < 128) : wire text = text := by
  induction text with
  | nil => rfl
  | cons c text ih =>
    rw [wire_cons_ascii (h c (by simp)), ih fun d hd => h d (by simp [hd])]

lemma toNat_charOf (b : UInt8) : (charOf b).toNat = b.toNat := by
  have hlt : b.toNat < 256 := b.toNat_lt
  have hvalid : b.toNat.isValidChar := .inl (by omega)
  rw [charOf, Char.ofNat, dif_pos hvalid]
  rfl

/-- A state in which a text was read up to here without a flaw. -/
def TextState.ofBytes (bytes : Bytes) : TextState := { bytes := some bytes }

lemma push_ofBytes (bytes : Bytes) (c : Char) :
    (TextState.ofBytes bytes).push c = .ofBytes (UInt8.ofNat c.toNat :: bytes) := rfl

/-- A byte without a meaning of its own is taken as it is. -/
lemma readText_raw {b : UInt8} (bytes : Bytes) (rest : List Char) (hquote : b ≠ 0x22)
    (hescape : b ≠ 0x5c) (hraw : 0x20 ≤ b.toNat) :
    readText (.ofBytes bytes) (charOf b :: rest) = readText (.ofBytes (b :: bytes)) rest := by
  have hother : ∀ c : UInt8, b ≠ c → charOf b ≠ charOf c := by
    intro c hc heq
    have hnat := congrArg Char.toNat heq
    rw [toNat_charOf, toNat_charOf] at hnat
    exact hc (UInt8.toNat_inj.mp hnat)
  have hquote' : charOf b ≠ '\x22' := hother 0x22 hquote
  have hescape' : charOf b ≠ '\\' := hother 0x5c hescape
  have hlt : ¬ charOf b < ' ' := by
    rw [Char.lt_def, UInt32.lt_iff_toNat_lt]
    change ¬ (charOf b).toNat < 32
    rw [toNat_charOf]
    omega
  rw [readText]
  · rw [if_neg hlt, push_ofBytes, toNat_charOf, UInt8.ofNat_toNat]
  all_goals simp_all

/-- Bytes without a meaning of their own are taken as they are. -/
lemma readText_raws {raws : Bytes} (bytes : Bytes) (rest : List Char)
    (h : ∀ b ∈ raws, b ≠ 0x22 ∧ b ≠ 0x5c ∧ 0x20 ≤ b.toNat) :
    readText (.ofBytes bytes) (raws.map charOf ++ rest) =
      readText (.ofBytes (raws.reverse ++ bytes)) rest := by
  induction raws generalizing bytes with
  | nil => rfl
  | cons b raws ih =>
    obtain ⟨hquote, hescape, hraw⟩ := h b (by simp)
    rw [List.map_cons, List.cons_append, readText_raw bytes _ hquote hescape hraw,
      ih _ fun d hd => h d (by simp [hd])]
    simp

lemma readText_short {c d : Char} (bytes : Bytes) (rest : List Char) (hd : d ≠ 'u')
    (h : shortEscape? d = some c) (hc : c.toNat < 128) :
    readText (.ofBytes bytes) ('\\' :: d :: rest) =
      readText (.ofBytes ((String.utf8EncodeChar c).reverse ++ bytes)) rest := by
  rw [readText]
  · simp only [h]
    rw [push_ofBytes, encodeChar_ascii hc]
    rfl
  all_goals simp_all

/-- The code of a control character is read as the character. -/
lemma hexCode?_control : ∀ n < 32,
    hexCode? '0' '0' (Nat.digitChar (n / 16)) (Nat.digitChar (n % 16)) = some n := by decide

lemma readText_code {c : Char} (bytes : Bytes) (rest : List Char) (hc : c.toNat < 32) :
    readText (.ofBytes bytes) ('\\' :: 'u' :: '0' :: '0' :: Nat.digitChar (c.toNat / 16) ::
        Nat.digitChar (c.toNat % 16) :: rest) =
      readText (.ofBytes ((String.utf8EncodeChar c).reverse ++ bytes)) rest := by
  have hunit : (TextState.ofBytes bytes).pushUnit c.toNat =
      .ofBytes ((String.utf8EncodeChar c).reverse ++ bytes) := by
    have hhigh : ¬ (0xD800 ≤ c.toNat ∧ c.toNat ≤ 0xDBFF) := by omega
    have hlow : ¬ (0xDC00 ≤ c.toNat ∧ c.toNat ≤ 0xDFFF) := by omega
    simp only [TextState.pushUnit, TextState.ofBytes, if_neg hhigh, if_neg hlow]
    rw [Char.ofNat_toNat]
    rfl
  rw [readText, hexCode?_control _ hc]
  simp only [hunit]

/-- Outside of escapes a character has no byte that means something in a text. -/
lemma raw_of_mem_encodeChar {c : Char} (hquote : c ≠ '\x22') (hescape : c ≠ '\\') (hraw : ¬ c < ' ')
    {b : UInt8} (hb : b ∈ String.utf8EncodeChar c) : b ≠ 0x22 ∧ b ≠ 0x5c ∧ 0x20 ≤ b.toNat := by
  have hle : 32 ≤ c.toNat := by
    rw [Char.lt_def, UInt32.lt_iff_toNat_lt] at hraw
    exact Nat.le_of_not_lt hraw
  by_cases hlt : b < 0x80
  · obtain ⟨-, rfl⟩ := Text.eq_of_mem_encodeChar hb hlt
    have hnat : (charOf b).toNat = b.toNat := toNat_charOf b
    refine ⟨?_, ?_, ?_⟩
    · rintro rfl
      exact hquote rfl
    · rintro rfl
      exact hescape rfl
    · rw [← hnat]
      exact hle
  · have hhigh : 128 ≤ b.toNat := UInt8.le_iff_toNat_le.mp (UInt8.not_lt.mp hlt)
    refine ⟨?_, ?_, by omega⟩
    · rintro rfl
      exact absurd hhigh (by decide)
    · rintro rfl
      exact absurd hhigh (by decide)

/-- Whatever is written for a character is read as the character. -/
lemma readText_escape (c : Char) (bytes : Bytes) (rest : List Char) :
    readText (.ofBytes bytes) (wire (escape c) ++ rest) =
      readText (.ofBytes ((String.utf8EncodeChar c).reverse ++ bytes)) rest := by
  unfold escape
  split
  · next h => subst h; exact readText_short bytes rest (by decide) rfl (by decide)
  split
  · next h => subst h; exact readText_short bytes rest (by decide) rfl (by decide)
  split
  · next h => subst h; exact readText_short bytes rest (by decide) rfl (by decide)
  split
  · next h => subst h; exact readText_short bytes rest (by decide) rfl (by decide)
  split
  · next h => subst h; exact readText_short bytes rest (by decide) rfl (by decide)
  split
  · next h => subst h; exact readText_short bytes rest (by decide) rfl (by decide)
  split
  · next h => subst h; exact readText_short bytes rest (by decide) rfl (by decide)
  split
  · next hcontrol =>
    have hc : c.toNat < 32 := by
      rw [Char.lt_def, UInt32.lt_iff_toNat_lt] at hcontrol
      exact hcontrol
    have hdigit : ∀ n < 16, (Nat.digitChar n).toNat < 128 := by decide
    rw [wire_ascii]
    · exact readText_code bytes rest hc
    · simp only [List.mem_cons, List.not_mem_nil, or_false]
      rintro d (rfl | rfl | rfl | rfl | rfl | rfl)
      · decide
      · decide
      · decide
      · decide
      · exact hdigit _ (by omega)
      · exact hdigit _ (by omega)
  · next hquote hescape _ _ _ _ _ hraw =>
    rw [wire_cons, wire_nil, List.append_nil]
    exact readText_raws bytes rest fun b hb => raw_of_mem_encodeChar hquote hescape hraw hb

lemma readText_escapes (text : List Char) (bytes : Bytes) (rest : List Char) :
    readText (.ofBytes bytes) (wire (text.flatMap escape) ++ rest) =
      readText (.ofBytes ((encode text).reverse ++ bytes)) rest := by
  induction text generalizing bytes with
  | nil => rfl
  | cons c text ih =>
    rw [List.flatMap_cons, wire_append, List.append_assoc, readText_escape, ih]
    simp [encode, List.flatMap_cons]

/-- A text between quotes is read back, whatever follows. -/
theorem readText_writeText (text : List Char) :
    ∃ body, wire (writeText text) = '\x22' :: body ∧
      ∀ rest, readText {} (body ++ rest) = .ok (some text, rest) := by
  refine ⟨wire (text.flatMap escape) ++ ['\x22'], ?_, fun rest => ?_⟩
  · rw [writeText, List.cons_append, wire_cons_ascii (by decide), wire_append]
    rfl
  · have hbody := readText_escapes text [] (['\x22'] ++ rest)
    change readText {} _ = _ at hbody
    rw [List.append_assoc, hbody, List.singleton_append, readText]
    change Except.ok (Utf8.decode? ((encode text).reverse ++ []).reverse, rest) = _
    rw [List.append_nil, List.reverse_reverse, Utf8.decode?_encode]

end Judge.Json
