import Mathlib.Tactic.Lemma
import Judge.Text.Utf8

/-!
Decoding undoes encoding: the bytes of each character are read as one sequence, whatever follows.
-/

namespace Judge.Utf8

section Bytes

variable {n : Nat}

lemma toNat_ofNat (h : n < 256) : (UInt8.ofNat n).toNat = n := UInt8.toNat_ofNat_of_lt' h

lemma ofNat_lt_iff (h : n < 256) {b : UInt8} : UInt8.ofNat n < b ↔ n < b.toNat := by
  rw [UInt8.lt_iff_toNat_lt, toNat_ofNat h]

lemma ofNat_le_iff (h : n < 256) {b : UInt8} : UInt8.ofNat n ≤ b ↔ n ≤ b.toNat := by
  rw [UInt8.le_iff_toNat_le, toNat_ofNat h]

lemma le_ofNat_iff (h : n < 256) {b : UInt8} : b ≤ UInt8.ofNat n ↔ b.toNat ≤ n := by
  rw [UInt8.le_iff_toNat_le, toNat_ofNat h]

lemma ofNat_eq_iff (h : n < 256) {b : UInt8} : UInt8.ofNat n = b ↔ n = b.toNat := by
  rw [← UInt8.toNat_inj, toNat_ofNat h]

lemma isContinuation_ofNat (h : 128 ≤ n) (hn : n < 192) : isContinuation (UInt8.ofNat n) = true := by
  have hlt : n < 256 := by omega
  simp only [isContinuation, le_ofNat_iff hlt, ofNat_le_iff hlt, Bool.and_eq_true, decide_eq_true_eq]
  exact ⟨h, by change n ≤ 191; omega⟩

lemma payload_ofNat (h : n < 256) : payload (UInt8.ofNat n) = n % 64 := by
  rw [payload, toNat_ofNat h]

end Bytes

section Sequence

variable {lead b d e : UInt8} (rest : Bytes)

lemma next_two (h : 0xC2 ≤ lead) (h' : lead ≤ 0xDF) (hb : isContinuation b = true) :
    next lead (b :: rest) = (some (Char.ofNat (lead.toNat % 32 * 64 + payload b)), 1) := by
  have hascii : ¬ lead < 0x80 := by
    rw [UInt8.not_lt]
    exact UInt8.le_trans (by decide) h
  simp [next, hascii, h, h', hb]

lemma next_three (h : 0xE0 ≤ lead) (h' : lead ≤ 0xEF) (hb : isSecond lead b = true)
    (hd : isContinuation d = true) :
    next lead (b :: d :: rest) =
      (some (Char.ofNat (lead.toNat % 16 * 4096 + payload b * 64 + payload d)), 2) := by
  have hascii : ¬ lead < 0x80 := by
    rw [UInt8.not_lt]
    exact UInt8.le_trans (by decide) h
  have htwo : ¬ lead ≤ 0xDF := by
    rw [UInt8.not_le]
    exact UInt8.lt_of_lt_of_le (by decide) h
  simp [next, hascii, htwo, h, h', hb, hd]

lemma next_four (h : 0xF0 ≤ lead) (h' : lead ≤ 0xF4) (hb : isSecond lead b = true)
    (hd : isContinuation d = true) (he : isContinuation e = true) :
    next lead (b :: d :: e :: rest) =
      (some (Char.ofNat (lead.toNat % 8 * 262144 + payload b * 4096 + payload d * 64 + payload e)),
        3) := by
  have hascii : ¬ lead < 0x80 := by
    rw [UInt8.not_lt]
    exact UInt8.le_trans (by decide) h
  have htwo : ¬ lead ≤ 0xDF := by
    rw [UInt8.not_le]
    exact UInt8.lt_of_lt_of_le (by decide) h
  have hthree : ¬ lead ≤ 0xEF := by
    rw [UInt8.not_le]
    exact UInt8.lt_of_lt_of_le (by decide) h
  simp [next, hascii, htwo, hthree, h, h', hb, hd, he]

end Sequence

lemma isSecond_ofNat {l n : Nat} (hl : l < 256) (h : 128 ≤ n) (hn : n < 192)
    (hlow : l = 0xE0 → 0xA0 ≤ n) (hsurrogate : l = 0xED → n ≤ 0x9F) (hlow' : l = 0xF0 → 0x90 ≤ n)
    (hhigh : l = 0xF4 → n ≤ 0x8F) : isSecond (UInt8.ofNat l) (UInt8.ofNat n) = true := by
  have hlt : n < 256 := by omega
  have hliteral : ∀ k < 256, (UInt8.ofNat l = UInt8.ofNat k ↔ l = k) := by
    intro k hk
    rw [ofNat_eq_iff hl, toNat_ofNat hk]
  rw [isSecond, isContinuation_ofNat h hn]
  have hrange : ∀ low high : UInt8, low.toNat ≤ n → n ≤ high.toNat →
      (decide (low ≤ UInt8.ofNat n) && decide (UInt8.ofNat n ≤ high)) = true := by
    intro low high hlow hhigh
    simp [le_ofNat_iff hlt, ofNat_le_iff hlt, hlow, hhigh]
  have hmost : n ≤ 0xBF := by omega
  simp only [beq_iff_eq]
  split
  · next heq => exact hrange _ _ (hlow ((hliteral 0xE0 (by decide)).mp heq)) hmost
  split
  · next heq => exact hrange _ _ h (hsurrogate ((hliteral 0xED (by decide)).mp heq))
  split
  · next heq => exact hrange _ _ (hlow' ((hliteral 0xF0 (by decide)).mp heq)) hmost
  split
  · next heq => exact hrange _ _ h (hhigh ((hliteral 0xF4 (by decide)).mp heq))
  · rfl

/-- The bytes of a character are read as one sequence. -/
theorem next_encodeChar (c : Char) : ∃ lead more, String.utf8EncodeChar c = lead :: more ∧
    ∀ rest, next lead (more ++ rest) = (some c, more.length) := by
  have hvalid : c.val.toNat < 0xD800 ∨ 0xDFFF < c.val.toNat ∧ c.val.toNat < 0x110000 := c.valid
  have hc : Char.ofNat c.val.toNat = c := Char.ofNat_toNat c
  simp only [String.utf8EncodeChar]
  generalize c.val.toNat = v at hvalid hc
  subst hc
  split
  · next hone =>
    refine ⟨_, _, rfl, fun rest => ?_⟩
    have hascii : UInt8.ofNat v < 0x80 := (ofNat_lt_iff (by omega)).mpr (by change v < 128; omega)
    simp [next, hascii, toNat_ofNat (n := v) (by omega)]
  split
  · next hone htwo =>
    refine ⟨_, _, rfl, fun rest => ?_⟩
    have hlead : v / 64 % 32 + 0xc0 < 256 := by omega
    rw [List.singleton_append, next_two, toNat_ofNat hlead, payload_ofNat (by omega)]
    · have hvalue : (v / 64 % 32 + 0xc0) % 32 * 64 + (v % 64 + 0x80) % 64 = v := by omega
      rw [hvalue]
      rfl
    · exact (le_ofNat_iff hlead).mpr (by change 194 ≤ _; omega)
    · exact (ofNat_le_iff hlead).mpr (by change _ ≤ 223; omega)
    · exact isContinuation_ofNat (by omega) (by omega)
  split
  · next hone htwo hthree =>
    refine ⟨_, _, rfl, fun rest => ?_⟩
    have hlead : v / 4096 % 16 + 0xe0 < 256 := by omega
    rw [List.cons_append, List.singleton_append, next_three, toNat_ofNat hlead,
      payload_ofNat (by omega), payload_ofNat (by omega)]
    · have hvalue : (v / 4096 % 16 + 0xe0) % 16 * 4096 + (v / 64 % 64 + 0x80) % 64 * 64 +
          (v % 64 + 0x80) % 64 = v := by omega
      rw [hvalue]
      rfl
    · exact (le_ofNat_iff hlead).mpr (by change 224 ≤ _; omega)
    · exact (ofNat_le_iff hlead).mpr (by change _ ≤ 239; omega)
    · apply isSecond_ofNat hlead <;> omega
    · exact isContinuation_ofNat (by omega) (by omega)
  · next hone htwo hthree =>
    refine ⟨_, _, rfl, fun rest => ?_⟩
    have hlead : v / 262144 % 8 + 0xf0 < 256 := by omega
    rw [List.cons_append, List.cons_append, List.singleton_append, next_four, toNat_ofNat hlead,
      payload_ofNat (by omega), payload_ofNat (by omega), payload_ofNat (by omega)]
    · have hvalue : (v / 262144 % 8 + 0xf0) % 8 * 262144 + (v / 4096 % 64 + 0x80) % 64 * 4096 +
          (v / 64 % 64 + 0x80) % 64 * 64 + (v % 64 + 0x80) % 64 = v := by omega
      rw [hvalue]
      rfl
    · exact (le_ofNat_iff hlead).mpr (by change 240 ≤ _; omega)
    · exact (ofNat_le_iff hlead).mpr (by change _ ≤ 244; omega)
    · apply isSecond_ofNat hlead <;> omega
    · exact isContinuation_ofNat (by omega) (by omega)
    · exact isContinuation_ofNat (by omega) (by omega)

/-- Decoding undoes encoding. -/
theorem decode_encode (text : List Char) : decode (encode text) = text.map some := by
  induction text with
  | nil => simp
  | cons c text ih =>
    obtain ⟨lead, more, henc, hnext⟩ := next_encodeChar c
    have hencode : encode (c :: text) = lead :: (more ++ encode text) := by
      simp [encode, List.flatMap_cons, henc]
    rw [hencode, decode, hnext]
    simp only [List.drop_left, ih, List.map_cons]

theorem decode?_encode (text : List Char) : decode? (encode text) = some text := by
  rw [decode?, decode_encode]
  induction text with
  | nil => rfl
  | cons c text ih => simp [List.mapM_cons, ih]

end Judge.Utf8
