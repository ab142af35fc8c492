import Mathlib.Data.List.Forall2
import Judge.Proofs.Text.Utf8

/-!
The stretches of bytes that are read as one character each. They make up the bytes again, a stretch
that is read as a character is the encoding of the character or ill-formed, and no stretch goes on
at a byte that starts one.
-/

namespace Judge.Utf8

/-! ### One stretch -/

/-- What the bytes behind a leading byte must be, none if the byte leads nothing. -/
def followers? (lead : UInt8) : Option (List (UInt8 → Bool)) :=
  if lead < 0x80 then some []
  else if 0xC2 ≤ lead && lead ≤ 0xDF then some [isContinuation]
  else if 0xE0 ≤ lead && lead ≤ 0xEF then some [isSecond lead, isContinuation]
  else if 0xF0 ≤ lead && lead ≤ 0xF4 then some [isSecond lead, isContinuation, isContinuation]
  else none

/-- How many bytes are as they must be. -/
def matched : List (UInt8 → Bool) → Bytes → Nat
  | test :: tests, b :: bytes => if test b then matched tests bytes + 1 else 0
  | _, _ => 0

/-- The character that a leading byte and the bytes that belong to it stand for. -/
def characterOf (lead : UInt8) : Bytes → Char
  | [] => Char.ofNat lead.toNat
  | [b] => Char.ofNat (lead.toNat % 32 * 64 + payload b)
  | [b, d] => Char.ofNat (lead.toNat % 16 * 4096 + payload b * 64 + payload d)
  | b :: d :: e :: _ =>
    Char.ofNat (lead.toNat % 8 * 262144 + payload b * 4096 + payload d * 64 + payload e)

section Matched

variable {tests : List (UInt8 → Bool)} {bytes more : Bytes} {k : Nat}

lemma matched_le_length (tests : List (UInt8 → Bool)) (bytes : Bytes) :
    matched tests bytes ≤ bytes.length := by
  induction tests generalizing bytes with
  | nil => simp [matched]
  | cons test tests ih =>
    cases bytes with
    | nil => simp [matched]
    | cons b bytes =>
      rw [matched, List.length_cons]
      split
      · exact Nat.succ_le_succ (ih bytes)
      · omega

lemma matched_take (h : matched tests bytes ≤ k) :
    matched tests (bytes.take k) = matched tests bytes := by
  induction tests generalizing bytes k with
  | nil => simp [matched]
  | cons test tests ih =>
    cases bytes with
    | nil => simp
    | cons b bytes =>
      rw [matched] at h ⊢
      cases k with
      | zero =>
        split at h
        · omega
        · next hb => simp [matched, hb]
      | succ k =>
        rw [List.take_succ_cons, matched]
        split
        · next hb =>
          rw [if_pos hb] at h
          rw [ih (by omega)]
        · rfl

lemma forall₂_of_matched (h : matched tests bytes = tests.length) :
    List.Forall₂ (fun test b => test b = true) tests (bytes.take tests.length) := by
  induction tests generalizing bytes with
  | nil => exact .nil
  | cons test tests ih =>
    cases bytes with
    | nil => contradiction
    | cons b bytes =>
      rw [matched] at h
      split at h
      · next hb => exact .cons hb (ih (Nat.succ.inj h))
      · contradiction

/-- What follows is not read if it starts with no byte that may follow. -/
lemma matched_append (h : ∀ b ∈ more.head?, ∀ test ∈ tests, test b = false) :
    matched tests (bytes ++ more) = matched tests bytes := by
  induction tests generalizing bytes with
  | nil => simp [matched]
  | cons test tests ih =>
    cases bytes with
    | nil =>
      cases more with
      | nil => rfl
      | cons b more => simp [matched, h b rfl test (by simp)]
    | cons b bytes =>
      rw [List.cons_append, matched, matched,
        ih fun c hc other hother => h c hc other (List.mem_cons_of_mem _ hother)]

end Matched

lemma isContinuation_of_isSecond {lead b : UInt8} (h : isSecond lead b = true) :
    isContinuation b = true := by
  simp only [isSecond, isContinuation, Bool.and_eq_true, decide_eq_true_eq] at h ⊢
  grind

lemma isContinuation_of_followers {lead : UInt8} {tests : List (UInt8 → Bool)}
    (h : followers? lead = some tests) {test : UInt8 → Bool} (htest : test ∈ tests) {b : UInt8}
    (hb : test b = true) : isContinuation b = true := by
  have hcases : test = isContinuation ∨ test = isSecond lead := by
    unfold followers? at h
    split_ifs at h <;> grind
  rcases hcases with rfl | rfl
  · exact hb
  · exact isContinuation_of_isSecond hb

/-- What is read of bytes: as many as may follow the first, and a character if these are all that
must follow. -/
theorem next_eq (lead : UInt8) (rest : Bytes) :
    next lead rest = match followers? lead with
      | none => (none, 0)
      | some tests =>
        (if matched tests rest = tests.length
          then some (characterOf lead (rest.take tests.length)) else none, matched tests rest) := by
  unfold next followers?
  -- Both sides try the ranges of leading bytes in the same order, and each range reads at most as
  -- many bytes as there are.
  split
  · simp [matched, characterOf]
  split
  · rcases rest with _ | ⟨b, rest⟩
    · simp [matched]
    · cases hb : isContinuation b <;> simp [matched, characterOf, hb]
  split
  · rcases rest with _ | ⟨b, _ | ⟨d, rest⟩⟩
    · simp [matched]
    · cases hb : isSecond lead b <;> simp [matched, hb]
    · cases hb : isSecond lead b <;> cases hd : isContinuation d <;>
        simp [matched, characterOf, hb, hd]
  split
  · rcases rest with _ | ⟨b, _ | ⟨d, _ | ⟨e, rest⟩⟩⟩
    · simp [matched]
    · cases hb : isSecond lead b <;> simp [matched, hb]
    · cases hb : isSecond lead b <;> cases hd : isContinuation d <;> simp [matched, hb, hd]
    · cases hb : isSecond lead b <;> cases hd : isContinuation d <;> cases he : isContinuation e <;>
        simp [matched, characterOf, hb, hd, he]
  · rfl

section Next

variable {lead : UInt8} {rest more : Bytes}

lemma next_le_length (lead : UInt8) (rest : Bytes) : (next lead rest).2 ≤ rest.length := by
  rw [next_eq]
  cases followers? lead with
  | none => exact Nat.zero_le _
  | some tests => exact matched_le_length tests rest

/-- What is read of bytes does not depend on what follows behind it. -/
lemma next_take {k : Nat} (h : (next lead rest).2 ≤ k) : next lead (rest.take k) = next lead rest := by
  rw [next_eq] at h
  rw [next_eq, next_eq lead rest]
  cases hfollowers : followers? lead with
  | none => rfl
  | some tests =>
    rw [hfollowers] at h
    simp only at h ⊢
    rw [matched_take h]
    split
    · next hall => rw [List.take_take, Nat.min_eq_left (by omega)]
    · rfl

/-- A byte that starts a character is not read with what stands in front of it. -/
lemma next_append (h : ∀ b ∈ more.head?, isContinuation b = false) :
    next lead (rest ++ more) = next lead rest := by
  rw [next_eq, next_eq lead rest]
  cases hfollowers : followers? lead with
  | none => rfl
  | some tests =>
    have hmatched : matched tests (rest ++ more) = matched tests rest := by
      apply matched_append
      intro b hb test htest
      by_contra htrue
      have hcontinues := isContinuation_of_followers hfollowers htest (by simpa using htrue)
      rw [h b hb] at hcontinues
      contradiction
    simp only [hmatched]
    split
    · next hall =>
      have hle := matched_le_length tests rest
      rw [List.take_append_of_le_length (by omega)]
    · rfl

end Next

section Encodings

variable {lead b d e : UInt8}

lemma isContinuation_iff : isContinuation b = true ↔ 128 ≤ b.toNat ∧ b.toNat ≤ 191 := by
  simp [isContinuation, UInt8.le_iff_toNat_le]

/-- Second bytes exclude longer encodings than necessary, surrogates and numbers that are too
large. -/
lemma bounds_of_isSecond (h : isSecond lead b = true) :
    (128 ≤ b.toNat ∧ b.toNat ≤ 191) ∧ (lead.toNat = 224 → 160 ≤ b.toNat) ∧
      (lead.toNat = 237 → b.toNat ≤ 159) ∧ (lead.toNat = 240 → 144 ≤ b.toNat) ∧
      (lead.toNat = 244 → b.toNat ≤ 143) := by
  refine ⟨isContinuation_iff.mp (isContinuation_of_isSecond h), ?_⟩
  simp only [isSecond, beq_iff_eq, ← UInt8.toNat_inj] at h
  refine ⟨?_, ?_, ?_, ?_⟩
  all_goals
    intro hlead
    simp [hlead, UInt8.le_iff_toNat_le] at h
    omega

lemma toNat_val_ofNat {n : Nat} (h : n.isValidChar) : (Char.ofNat n).val.toNat = n := by
  unfold Char.ofNat
  rw [dif_pos h]
  rfl

lemma ofNat_eq {n : Nat} (h : n = b.toNat) : UInt8.ofNat n = b := by
  rw [h, UInt8.ofNat_toNat]

lemma encodeChar_one (h : lead < 0x80) : String.utf8EncodeChar (characterOf lead []) = [lead] := by
  have hlead : lead.toNat < 128 := UInt8.lt_iff_toNat_lt.mp h
  rw [characterOf, String.utf8EncodeChar, toNat_val_ofNat (.inl (by omega))]
  simp only [if_pos (show lead.toNat ≤ 127 by omega), UInt8.ofNat_toNat]

lemma encodeChar_two (h : 0xC2 ≤ lead) (h' : lead ≤ 0xDF) (hb : isContinuation b = true) :
    String.utf8EncodeChar (characterOf lead [b]) = [lead, b] := by
  have hlow : 194 ≤ lead.toNat := UInt8.le_iff_toNat_le.mp h
  have hhigh : lead.toNat ≤ 223 := UInt8.le_iff_toNat_le.mp h'
  have hbounds := isContinuation_iff.mp hb
  rw [characterOf, payload, String.utf8EncodeChar, toNat_val_ofNat (.inl (by omega))]
  rw [if_neg (by omega), if_pos (by omega), ofNat_eq (b := lead) (by omega),
    ofNat_eq (b := b) (by omega)]

lemma encodeChar_three (h : 0xE0 ≤ lead) (h' : lead ≤ 0xEF) (hb : isSecond lead b = true)
    (hd : isContinuation d = true) :
    String.utf8EncodeChar (characterOf lead [b, d]) = [lead, b, d] := by
  have hlow : 224 ≤ lead.toNat := UInt8.le_iff_toNat_le.mp h
  have hhigh : lead.toNat ≤ 239 := UInt8.le_iff_toNat_le.mp h'
  obtain ⟨hcontinues, hleast, hsurrogate, -, -⟩ := bounds_of_isSecond hb
  have hbounds := isContinuation_iff.mp hd
  have hvalid : (lead.toNat % 16 * 4096 + payload b * 64 + payload d).isValidChar := by
    simp only [Nat.isValidChar, payload]
    omega
  rw [characterOf, String.utf8EncodeChar, toNat_val_ofNat hvalid, payload, payload]
  rw [if_neg (by omega), if_neg (by omega), if_pos (by omega), ofNat_eq (b := lead) (by omega),
    ofNat_eq (b := b) (by omega), ofNat_eq (b := d) (by omega)]

lemma encodeChar_four (h : 0xF0 ≤ lead) (h' : lead ≤ 0xF4) (hb : isSecond lead b = true)
    (hd : isContinuation d = true) (he : isContinuation e = true) :
    String.utf8EncodeChar (characterOf lead [b, d, e]) = [lead, b, d, e] := by
  have hlow : 240 ≤ lead.toNat := UInt8.le_iff_toNat_le.mp h
  have hhigh : lead.toNat ≤ 244 := UInt8.le_iff_toNat_le.mp h'
  obtain ⟨hcontinues, -, -, hleast, hgreatest⟩ := bounds_of_isSecond hb
  have hbounds := isContinuation_iff.mp hd
  have hbounds' := isContinuation_iff.mp he
  have hvalid : (lead.toNat % 8 * 262144 + payload b * 4096 + payload d * 64 +
      payload e).isValidChar := by
    simp only [Nat.isValidChar, payload]
    omega
  rw [characterOf, String.utf8EncodeChar, toNat_val_ofNat hvalid, payload, payload, payload]
  rw [if_neg (by omega), if_neg (by omega), if_neg (by omega), ofNat_eq (b := lead) (by omega),
    ofNat_eq (b := b) (by omega), ofNat_eq (b := d) (by omega), ofNat_eq (b := e) (by omega)]

/-- Bytes that may all follow are encoded by their character. -/
lemma encodeChar_characterOf {tests : List (UInt8 → Bool)} {more : Bytes}
    (hfollowers : followers? lead = some tests)
    (hmore : List.Forall₂ (fun test b => test b = true) tests more) :
    String.utf8EncodeChar (characterOf lead more) = lead :: more := by
  unfold followers? at hfollowers
  split at hfollowers
  · next hlead =>
    obtain rfl := Option.some.inj hfollowers
    cases hmore
    exact encodeChar_one hlead
  split at hfollowers
  · next hlead =>
    obtain rfl := Option.some.inj hfollowers
    rw [Bool.and_eq_true, decide_eq_true_eq, decide_eq_true_eq] at hlead
    obtain _ | ⟨hb, _ | _⟩ := hmore
    exact encodeChar_two hlead.1 hlead.2 hb
  split at hfollowers
  · next hlead =>
    obtain rfl := Option.some.inj hfollowers
    rw [Bool.and_eq_true, decide_eq_true_eq, decide_eq_true_eq] at hlead
    obtain _ | ⟨hb, _ | ⟨hd, _ | _⟩⟩ := hmore
    exact encodeChar_three hlead.1 hlead.2 hb hd
  split at hfollowers
  · next hlead =>
    obtain rfl := Option.some.inj hfollowers
    rw [Bool.and_eq_true, decide_eq_true_eq, decide_eq_true_eq] at hlead
    obtain _ | ⟨hb, _ | ⟨hd, _ | ⟨he, _ | _⟩⟩⟩ := hmore
    exact encodeChar_four hlead.1 hlead.2 hb hd he
  · contradiction

/-- A stretch that is read as a character is its encoding. -/
theorem encodeChar_of_next {rest : Bytes} {c : Char} (h : (next lead rest).1 = some c) :
    String.utf8EncodeChar c = lead :: rest.take (next lead rest).2 := by
  rw [next_eq] at h ⊢
  cases hfollowers : followers? lead with
  | none => simp [hfollowers] at h
  | some tests =>
    simp only [hfollowers] at h ⊢
    split at h
    · next hall =>
      obtain rfl := Option.some.inj h
      rw [hall]
      exact encodeChar_characterOf hfollowers (forall₂_of_matched hall)
    · contradiction

end Encodings

/-! ### All stretches -/

/-- The stretches of bytes that are read as one character each. -/
def stretches : Bytes → List Bytes
  | [] => []
  | lead :: rest =>
    (lead :: rest.take (next lead rest).2) :: stretches (rest.drop (next lead rest).2)
termination_by bytes => bytes.length
decreasing_by simp only [List.length_drop, List.length_cons]; omega

/-- The character that a stretch encodes, none if it is ill-formed. -/
def character? : Bytes → Option Char
  | [] => none
  | lead :: rest => (next lead rest).1

/-- The character that is shown for a stretch. -/
def shown (stretch : Bytes) : Char := (character? stretch).getD '\uFFFD'

@[simp] lemma stretches_nil : stretches [] = [] := by rw [stretches]

lemma stretches_cons (lead : UInt8) (rest : Bytes) :
    stretches (lead :: rest) =
      (lead :: rest.take (next lead rest).2) :: stretches (rest.drop (next lead rest).2) := by
  rw [stretches]

variable {bytes more : Bytes}

/-- The stretches make up the bytes. -/
theorem flatten_stretches (bytes : Bytes) : (stretches bytes).flatten = bytes := by
  induction bytes using stretches.induct with
  | case1 => simp
  | case2 lead rest ih => rw [stretches_cons, List.flatten_cons, ih, List.cons_append,
      List.take_append_drop]

lemma decode_cons (lead : UInt8) (rest : Bytes) :
    decode (lead :: rest) = (next lead rest).1 :: decode (rest.drop (next lead rest).2) := by
  rw [decode]

/-- Decoding reads each stretch on its own. -/
theorem decode_eq_map (bytes : Bytes) : decode bytes = (stretches bytes).map character? := by
  induction bytes using stretches.induct with
  | case1 => simp
  | case2 lead rest ih =>
    rw [decode_cons, stretches_cons, List.map_cons, ih, character?, next_take (Nat.le_refl _)]

lemma decodeLossy_eq_map (bytes : Bytes) : decodeLossy bytes = (stretches bytes).map shown := by
  rw [decodeLossy, decode_eq_map, List.map_map]
  rfl

/-- No stretch goes on at a byte that starts a character. -/
theorem stretches_append (h : ∀ b ∈ more.head?, isContinuation b = false) (bytes : Bytes) :
    stretches (bytes ++ more) = stretches bytes ++ stretches more := by
  induction bytes using stretches.induct with
  | case1 => simp
  | case2 lead rest ih =>
    have hle := next_le_length lead rest
    rw [List.cons_append, stretches_cons, stretches_cons, next_append h,
      List.take_append_of_le_length hle, List.drop_append_of_le_length hle, ih, List.cons_append]

/-- A stretch that is read as a character is its encoding. -/
theorem eq_encode_of_character? {stretch : Bytes} (hmem : stretch ∈ stretches bytes) {c : Char}
    (h : character? stretch = some c) : stretch = encode [c] := by
  induction bytes using stretches.induct with
  | case1 => simp at hmem
  | case2 lead rest ih =>
    rw [stretches_cons, List.mem_cons] at hmem
    rcases hmem with rfl | hmem
    · rw [character?, next_take (Nat.le_refl _)] at h
      simp [encode, encodeChar_of_next h]
    · exact ih hmem

/-- The first stretches are read as they were when nothing follows them. -/
lemma stretches_flatten {front : List Bytes} (h : front <+: stretches bytes) :
    stretches front.flatten = front := by
  induction bytes using stretches.induct generalizing front with
  | case1 =>
    rw [stretches_nil, List.prefix_nil] at h
    rw [h, List.flatten_nil, stretches_nil]
  | case2 lead rest ih =>
    cases front with
    | nil => rw [List.flatten_nil, stretches_nil]
    | cons stretch front =>
      rw [stretches_cons, List.cons_prefix_cons] at h
      obtain ⟨rfl, hfront⟩ := h
      have hread := ih hfront
      obtain ⟨behind, hbehind⟩ : front.flatten <+: rest.drop (next lead rest).2 := by
        obtain ⟨others, hothers⟩ := hfront
        exact ⟨others.flatten, by rw [← List.flatten_append, hothers, flatten_stretches]⟩
      have hlength : (rest.take (next lead rest).2).length = (next lead rest).2 :=
        List.length_take_of_le (next_le_length lead rest)
      have hrest : rest = rest.take (next lead rest).2 ++ front.flatten ++ behind := by
        rw [List.append_assoc, hbehind, List.take_append_drop]
      -- What is left holds all that the first stretch used, so the first stretch is read again.
      have hused : (next lead rest).2 ≤ (rest.take (next lead rest).2 ++ front.flatten).length := by
        rw [List.length_append, hlength]
        omega
      have hnext : next lead (rest.take (next lead rest).2 ++ front.flatten) = next lead rest := by
        rw [List.prefix_iff_eq_take.mp ⟨behind, hrest.symm⟩]
        exact next_take hused
      rw [List.flatten_cons, List.cons_append, stretches_cons, hnext, List.take_left' hlength,
        List.drop_left' hlength, hread]

lemma isContinuation_of_followers?_ne {lead : UInt8} (h : followers? lead ≠ none) :
    isContinuation lead = false := by
  rw [Bool.eq_false_iff]
  intro hcontinues
  have hbounds := isContinuation_iff.mp hcontinues
  apply h
  unfold followers?
  rw [if_neg, if_neg, if_neg, if_neg]
  all_goals
    simp [UInt8.lt_iff_toNat_lt, UInt8.le_iff_toNat_le]
    omega

/-- A character starts at a byte that continues none, and its encoding is read as the character. -/
lemma encode_singleton (c : Char) : ∃ lead more, encode [c] = lead :: more ∧
    isContinuation lead = false ∧ character? (lead :: more) = some c := by
  obtain ⟨lead, more, henc, hnext⟩ := next_encodeChar c
  have hread : next lead more = (some c, more.length) := by simpa using hnext []
  refine ⟨lead, more, by simp [encode, henc], isContinuation_of_followers?_ne ?_, by
    rw [character?, hread]⟩
  intro hnone
  rw [next_eq, hnone] at hread
  simp at hread

lemma stretches_encode (c : Char) : stretches (encode [c]) = [encode [c]] := by
  obtain ⟨lead, more, henc, hnext⟩ := next_encodeChar c
  have hread : next lead more = (some c, more.length) := by simpa using hnext []
  have hencode : encode [c] = lead :: more := by simp [encode, henc]
  rw [hencode, stretches_cons, hread, List.take_length, List.drop_length, stretches_nil]

lemma shown_encode (c : Char) : shown (encode [c]) = c := by
  obtain ⟨lead, more, henc, -, hread⟩ := encode_singleton c
  rw [shown, henc, hread, Option.getD_some]

lemma head?_encode {text : List Char} : ∀ b ∈ (encode text).head?, isContinuation b = false := by
  cases text with
  | nil => simp
  | cons c text =>
    obtain ⟨lead, more, henc, hlead, -⟩ := encode_singleton c
    have hencode : encode (c :: text) = encode [c] ++ encode text := by simp [encode]
    rw [hencode, henc]
    simpa using hlead

/-- Stretches that encode what is shown for them encode a text. -/
lemma flatten_eq_encode {front : List Bytes} (h : ∀ stretch ∈ front, stretch = encode [shown stretch]) :
    front.flatten = encode (front.map shown) := by
  induction front with
  | nil => rfl
  | cons stretch front ih =>
    obtain ⟨hstretch, hfront⟩ := List.forall_mem_cons.mp h
    have hencode : encode (shown stretch :: front.map shown) =
        encode [shown stretch] ++ encode (front.map shown) := by simp [encode]
    rw [List.flatten_cons, List.map_cons, hencode, ← hstretch, ih hfront]

lemma mapM_id_eq_some_iff {α : Type} {found : List (Option α)} {values : List α} :
    found.mapM id = some values ↔ found = values.map some := by
  induction found generalizing values with
  | nil => cases values <;> simp
  | cons first found ih =>
    rw [List.mapM_cons]
    cases first with
    | none => cases values <;> simp
    | some value =>
      change (found.mapM id).bind (fun rest => some (value :: rest)) = some values ↔ _
      rw [Option.bind_eq_some_iff]
      cases values with
      | nil => simp
      | cons other values => simp [ih, and_comm]

/-- Exactly the encodings of texts are read strictly. -/
theorem decode?_eq_some_iff {text : List Char} :
    decode? bytes = some text ↔ bytes = encode text := by
  constructor
  · intro h
    rw [decode?, mapM_id_eq_some_iff, decode_eq_map] at h
    have htext : (stretches bytes).map shown = text := by
      have hshown := congrArg (List.map fun c : Option Char => c.getD '\uFFFD') h
      rw [List.map_map, List.map_map] at hshown
      exact hshown.trans (List.map_id text)
    rw [← htext, ← flatten_eq_encode, flatten_stretches]
    intro stretch hmem
    have hread : character? stretch ∈ text.map some := h ▸ List.mem_map_of_mem hmem
    obtain ⟨c, -, hc⟩ := List.mem_map.mp hread
    rw [shown, ← hc, Option.getD_some, eq_encode_of_character? hmem hc.symm]
  · rintro rfl
    exact decode?_encode text

/-! ### Bytes below 128 -/

section Ascii

variable {b : UInt8} {stretch : Bytes}

lemma encode_ofNat (hb : b < 0x80) : encode [Char.ofNat b.toNat] = [b] := by
  simpa [encode, characterOf] using encodeChar_one hb

lemma shown_ascii (hb : b < 0x80) : shown [b] = Char.ofNat b.toNat := by
  rw [← encode_ofNat hb, shown_encode]

lemma ofNat_ne (hb : b < 0x80) : Char.ofNat b.toNat ≠ '\uFFFD' := by
  intro h
  have hlt : b.toNat < 128 := UInt8.lt_iff_toNat_lt.mp hb
  have hvalue : (Char.ofNat b.toNat).toNat = b.toNat := toNat_val_ofNat (.inl (by omega))
  rw [h, show '\uFFFD'.toNat = 65533 from rfl] at hvalue
  omega

/-- A byte below 128 stands for itself. -/
lemma eq_of_shown (hb : b < 0x80) (hmem : stretch ∈ stretches bytes)
    (h : shown stretch = Char.ofNat b.toNat) : stretch = [b] := by
  cases hc : character? stretch with
  | none =>
    rw [shown, hc, Option.getD_none] at h
    exact absurd h.symm (ofNat_ne hb)
  | some c =>
    rw [shown, hc, Option.getD_some] at h
    rw [eq_encode_of_character? hmem hc, h, encode_ofNat hb]

lemma not_isContinuation (hb : b < 0x80) : isContinuation b = false := by
  have hlt : b.toNat < 128 := UInt8.lt_iff_toNat_lt.mp hb
  rw [Bool.eq_false_iff, Ne, isContinuation_iff]
  omega

lemma stretches_append_ascii (hb : b < 0x80) (bytes more : Bytes) :
    stretches (bytes ++ b :: more) = stretches bytes ++ [b] :: stretches more := by
  have hstart : ∀ first ∈ (b :: more).head?, isContinuation first = false := by
    intro first hfirst
    obtain rfl : b = first := by simpa using hfirst
    exact not_isContinuation hb
  have hfollowers : followers? b = some [] := if_pos hb
  rw [stretches_append hstart, stretches_cons, next_eq, hfollowers]
  rfl

lemma notMem_decodeLossy (hb : b < 0x80) (h : b ∉ bytes) :
    Char.ofNat b.toNat ∉ decodeLossy bytes := by
  intro hmem
  rw [decodeLossy_eq_map] at hmem
  obtain ⟨stretch, hstretch, hshown⟩ := List.mem_map.mp hmem
  apply h
  rw [← flatten_stretches bytes, List.mem_flatten]
  exact ⟨stretch, hstretch, by simp [eq_of_shown hb hstretch hshown]⟩

lemma getLast?_of_decodeLossy (hb : b < 0x80)
    (h : (decodeLossy bytes).getLast? = some (Char.ofNat b.toNat)) : bytes.getLast? = some b := by
  rw [decodeLossy_eq_map, List.getLast?_map] at h
  obtain ⟨stretch, hlast, hshown⟩ := Option.map_eq_some_iff.mp h
  obtain ⟨front, hfront⟩ := List.getLast?_eq_some_iff.mp hlast
  have hmem : stretch ∈ stretches bytes := by simp [hfront]
  have hbytes : bytes = front.flatten ++ [b] := by
    rw [← flatten_stretches bytes, hfront, List.flatten_append, eq_of_shown hb hmem hshown]
    rfl
  simp [hbytes]

end Ascii

end Judge.Utf8
