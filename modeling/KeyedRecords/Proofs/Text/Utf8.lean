import Mathlib.Tactic
import KeyedRecords.Text.Utf8

/-!
# Reading back UTF-8

A text is read from exactly the bytes that it is written as.

`Sequence` lists the well-formed sequences of bytes. They are what characters are written as,
and the only sequences that are read as characters.

Results:
* `decodeChar_append`, `append_of_decodeChar`: a character is read from its own encoding,
  whatever follows, and from no other bytes.
* `decode_encode`: the bytes of a text are read as the text.
* `encode_of_decode`: bytes that are read as a text are the bytes of that text.
-/

namespace KeyedRecords.Text.Utf8

/-! ## Bytes as numbers -/

theorem ofNat_eq_of_toNat {n : ℕ} {b : UInt8} (h : b.toNat = n) : UInt8.ofNat n = b := by
  rw [← h]; exact UInt8.ofNat_toNat

theorem width_eq (b : UInt8) : width b =
    if b.toNat < 128 then 1 else if b.toNat < 194 then 0 else if b.toNat < 224 then 2
      else if b.toNat < 240 then 3 else if b.toNat < 245 then 4 else 0 := by
  simp only [width, UInt8.lt_iff_toNat_lt]
  rfl

theorem isContinuation_iff (b : UInt8) :
    isContinuation b = true ↔ 128 ≤ b.toNat ∧ b.toNat ≤ 191 := by
  simp only [isContinuation, Bool.and_eq_true, decide_eq_true_eq, UInt8.le_iff_toNat_le]
  rfl

theorem toNat_secondLow (b : UInt8) : (secondLow b).toNat =
    if b.toNat = 224 then 160 else if b.toNat = 240 then 144 else 128 := by
  simp only [secondLow, apply_ite UInt8.toNat, ← UInt8.toNat_inj]
  rfl

theorem toNat_secondHigh (b : UInt8) : (secondHigh b).toNat =
    if b.toNat = 237 then 159 else if b.toNat = 244 then 143 else 191 := by
  simp only [secondHigh, apply_ite UInt8.toNat, ← UInt8.toNat_inj]
  rfl

theorem isSecond_iff (a b : UInt8) : isSecond a b = true ↔
    (if a.toNat = 224 then 160 else if a.toNat = 240 then 144 else 128) ≤ b.toNat ∧
    b.toNat ≤ (if a.toNat = 237 then 159 else if a.toNat = 244 then 143 else 191) := by
  rw [isSecond, Bool.and_eq_true, decide_eq_true_eq, decide_eq_true_eq, UInt8.le_iff_toNat_le,
    UInt8.le_iff_toNat_le, toNat_secondLow, toNat_secondHigh]

/-! ## Well-formed sequences -/

/-- The well-formed sequences of bytes, by their length, and the number of the character that
    each stands for. -/
inductive Sequence : List UInt8 → ℕ → Prop
  | one {a : UInt8} (ha : a.toNat < 128) : Sequence [a] a.toNat
  | two {a b : UInt8} (ha : 194 ≤ a.toNat ∧ a.toNat < 224) (hb : isContinuation b = true) :
    Sequence [a, b] (a.toNat % 32 * 64 + payload b)
  | three {a b d : UInt8} (ha : 224 ≤ a.toNat ∧ a.toNat < 240) (hb : isSecond a b = true)
    (hd : isContinuation d = true) :
    Sequence [a, b, d] (a.toNat % 16 * 4096 + payload b * 64 + payload d)
  | four {a b d e : UInt8} (ha : 240 ≤ a.toNat ∧ a.toNat < 245) (hb : isSecond a b = true)
    (hd : isContinuation d = true) (he : isContinuation e = true) :
    Sequence [a, b, d, e]
      (a.toNat % 8 * 262144 + payload b * 4096 + payload d * 64 + payload e)

/-- The surrogates are no characters. -/
theorem char_range (c : Char) :
    c.val.toNat < 0xD800 ∨ 0xDFFF < c.val.toNat ∧ c.val.toNat < 0x110000 := c.valid

theorem toNat_val_ofNat {n : ℕ} (h : n.isValidChar) : (Char.ofNat n).val.toNat = n := by
  rw [Char.ofNat, dif_pos h]
  rfl

/-- Every character is written as the well-formed sequence of its number. -/
theorem sequence_utf8EncodeChar (c : Char) :
    Sequence (String.utf8EncodeChar c) c.val.toNat := by
  have hc := char_range c
  unfold String.utf8EncodeChar
  generalize c.val.toNat = v at hc ⊢
  dsimp only
  split_ifs with h1 h2 h3
  · have ha := UInt8.toNat_ofNat_of_lt' (show v < 256 by omega)
    generalize UInt8.ofNat v = a at ha ⊢
    rw [← ha]
    exact .one (by omega)
  · have ha := UInt8.toNat_ofNat_of_lt' (show v / 64 % 32 + 192 < 256 by omega)
    have hb := UInt8.toNat_ofNat_of_lt' (show v % 64 + 128 < 256 by omega)
    generalize UInt8.ofNat (v / 64 % 32 + 192) = a at ha ⊢
    generalize UInt8.ofNat (v % 64 + 128) = b at hb ⊢
    have hv : v = a.toNat % 32 * 64 + payload b := by unfold payload; omega
    rw [hv]
    exact .two (by omega) ((isContinuation_iff b).mpr (by omega))
  · have ha := UInt8.toNat_ofNat_of_lt' (show v / 4096 % 16 + 224 < 256 by omega)
    have hb := UInt8.toNat_ofNat_of_lt' (show v / 64 % 64 + 128 < 256 by omega)
    have hd := UInt8.toNat_ofNat_of_lt' (show v % 64 + 128 < 256 by omega)
    generalize UInt8.ofNat (v / 4096 % 16 + 224) = a at ha ⊢
    generalize UInt8.ofNat (v / 64 % 64 + 128) = b at hb ⊢
    generalize UInt8.ofNat (v % 64 + 128) = d at hd ⊢
    have hv : v = a.toNat % 16 * 4096 + payload b * 64 + payload d := by
      unfold payload; omega
    have hsecond : isSecond a b = true := by rw [isSecond_iff]; split_ifs <;> omega
    rw [hv]
    exact .three (by omega) hsecond ((isContinuation_iff d).mpr (by omega))
  · have ha := UInt8.toNat_ofNat_of_lt' (show v / 262144 % 8 + 240 < 256 by omega)
    have hb := UInt8.toNat_ofNat_of_lt' (show v / 4096 % 64 + 128 < 256 by omega)
    have hd := UInt8.toNat_ofNat_of_lt' (show v / 64 % 64 + 128 < 256 by omega)
    have he := UInt8.toNat_ofNat_of_lt' (show v % 64 + 128 < 256 by omega)
    generalize UInt8.ofNat (v / 262144 % 8 + 240) = a at ha ⊢
    generalize UInt8.ofNat (v / 4096 % 64 + 128) = b at hb ⊢
    generalize UInt8.ofNat (v / 64 % 64 + 128) = d at hd ⊢
    generalize UInt8.ofNat (v % 64 + 128) = e at he ⊢
    have hv : v = a.toNat % 8 * 262144 + payload b * 4096 + payload d * 64 + payload e := by
      unfold payload; omega
    have hsecond : isSecond a b = true := by rw [isSecond_iff]; split_ifs <;> omega
    rw [hv]
    exact .four (by omega) hsecond ((isContinuation_iff d).mpr (by omega))
      ((isContinuation_iff e).mpr (by omega))

/-- The character that a well-formed sequence stands for is written as the sequence. -/
theorem Sequence.utf8EncodeChar_ofNat {used : List UInt8} {n : ℕ} (h : Sequence used n) :
    String.utf8EncodeChar (Char.ofNat n) = used := by
  unfold String.utf8EncodeChar
  cases h with
  | one ha =>
    rw [toNat_val_ofNat (by left; omega), if_pos (by omega), ofNat_eq_of_toNat rfl]
  | @two a b ha hb =>
    rw [isContinuation_iff] at hb
    unfold payload
    rw [toNat_val_ofNat (by left; omega), if_neg (by omega), if_pos (by omega),
      ofNat_eq_of_toNat (b := a) (by omega), ofNat_eq_of_toNat (b := b) (by omega)]
  | @three a b d ha hb hd =>
    rw [isSecond_iff] at hb
    rw [isContinuation_iff] at hd
    unfold payload
    -- the bounds of the second byte leave out short forms and surrogates
    have hvalid : (a.toNat % 16 * 4096 + b.toNat % 64 * 64 + d.toNat % 64).isValidChar := by
      unfold Nat.isValidChar; split_ifs at hb <;> omega
    have hlow : 2048 ≤ a.toNat % 16 * 4096 + b.toNat % 64 * 64 + d.toNat % 64 := by
      split_ifs at hb <;> omega
    have hb' : 128 ≤ b.toNat ∧ b.toNat ≤ 191 := by split_ifs at hb <;> omega
    rw [toNat_val_ofNat hvalid, if_neg (by omega), if_neg (by omega), if_pos (by omega),
      ofNat_eq_of_toNat (b := a) (by omega), ofNat_eq_of_toNat (b := b) (by omega),
      ofNat_eq_of_toNat (b := d) (by omega)]
  | @four a b d e ha hb hd he =>
    rw [isSecond_iff] at hb
    rw [isContinuation_iff] at hd he
    unfold payload
    have hlow : 65536 ≤ a.toNat % 8 * 262144 + b.toNat % 64 * 4096 + d.toNat % 64 * 64
        + e.toNat % 64 := by
      split_ifs at hb <;> omega
    have hhigh : a.toNat % 8 * 262144 + b.toNat % 64 * 4096 + d.toNat % 64 * 64
        + e.toNat % 64 < 1114112 := by
      split_ifs at hb <;> omega
    have hb' : 128 ≤ b.toNat ∧ b.toNat ≤ 191 := by split_ifs at hb <;> omega
    rw [toNat_val_ofNat (by right; omega), if_neg (by omega), if_neg (by omega),
      if_neg (by omega), ofNat_eq_of_toNat (b := a) (by omega),
      ofNat_eq_of_toNat (b := b) (by omega), ofNat_eq_of_toNat (b := d) (by omega),
      ofNat_eq_of_toNat (b := e) (by omega)]

/-- A well-formed sequence is read as its character, whatever follows. -/
theorem Sequence.decodeChar_append {used : List UInt8} {n : ℕ} (h : Sequence used n)
    (rest : List UInt8) : decodeChar (used ++ rest) = .ok (Char.ofNat n, rest) := by
  cases h with
  | @one a ha =>
    have hw : width a = 1 := by rw [width_eq, if_pos ha]
    simp only [List.cons_append, List.nil_append, decodeChar, hw]
  | @two a b ha hb =>
    have hw : width a = 2 := by rw [width_eq]; split_ifs <;> omega
    simp only [List.cons_append, List.nil_append, decodeChar, hw, hb, if_true]
  | @three a b d ha hb hd =>
    have hw : width a = 3 := by rw [width_eq]; split_ifs <;> omega
    simp only [List.cons_append, List.nil_append, decodeChar, hw, hb, hd, if_true]
  | @four a b d e ha hb hd he =>
    have hw : width a = 4 := by rw [width_eq]; split_ifs <;> omega
    simp only [List.cons_append, List.nil_append, decodeChar, hw, hb, hd, he, if_true]

/-- Only well-formed sequences are read. -/
theorem sequence_of_decodeChar {bytes rest : List UInt8} {c : Char}
    (h : decodeChar bytes = .ok (c, rest)) :
    ∃ used n, bytes = used ++ rest ∧ Sequence used n ∧ c = Char.ofNat n := by
  match bytes with
  | [] => simp [decodeChar] at h
  | a :: bytes =>
    have hwa := width_eq a
    simp only [decodeChar] at h
    -- the width of the first byte fixes its range
    generalize width a = w at h hwa
    match w, bytes with
    | 0, _ => simp at h
    | 1, bytes =>
      cases h
      exact ⟨[a], _, rfl, .one (by split_ifs at hwa <;> omega), rfl⟩
    | 2, b :: bytes =>
      simp only at h
      split_ifs at h with hb
      cases h
      exact ⟨[a, b], _, rfl, .two (by split_ifs at hwa <;> omega) hb, rfl⟩
    | 3, b :: d :: bytes =>
      simp only at h
      split_ifs at h with hb hd
      cases h
      exact ⟨[a, b, d], _, rfl, .three (by split_ifs at hwa <;> omega) hb hd, rfl⟩
    | 4, b :: d :: e :: bytes =>
      simp only at h
      split_ifs at h with hb hd he
      cases h
      exact ⟨[a, b, d, e], _, rfl, .four (by split_ifs at hwa <;> omega) hb hd he, rfl⟩
    | 2, [] => simp at h
    | 3, [] => simp at h
    | 3, [b] => simp only at h; split_ifs at h
    | 4, [] => simp at h
    | 4, [b] => simp only at h; split_ifs at h
    | 4, [b, d] => simp only at h; split_ifs at h
    | n + 5, _ => simp at h

/-! ## One character -/

/-- What a character is written as is read back, whatever follows. -/
theorem decodeChar_append (c : Char) (rest : List UInt8) :
    decodeChar (String.utf8EncodeChar c ++ rest) = .ok (c, rest) := by
  rw [(sequence_utf8EncodeChar c).decodeChar_append]
  exact congrArg (fun c => Except.ok (c, rest)) (Char.ofNat_toNat c)

/-- Only the written form of a character is read as the character. -/
theorem append_of_decodeChar {bytes rest : List UInt8} {c : Char}
    (h : decodeChar bytes = .ok (c, rest)) : bytes = String.utf8EncodeChar c ++ rest := by
  obtain ⟨used, n, rfl, hused, rfl⟩ := sequence_of_decodeChar h
  rw [hused.utf8EncodeChar_ofNat]

/-- The first byte tells how many bytes are read. -/
theorem length_of_decodeChar {a : UInt8} {bytes rest : List UInt8} {c : Char}
    (h : decodeChar (a :: bytes) = .ok (c, rest)) :
    bytes.length + 1 = width a + rest.length := by
  simp only [decodeChar] at h
  generalize width a = w at h ⊢
  repeat' split at h
  all_goals (cases h <;> simp +arith)

/-- A character is written as a first byte and as many as it announces. -/
theorem utf8EncodeChar_eq_cons (c : Char) :
    ∃ first more, String.utf8EncodeChar c = first :: more ∧ width first = more.length + 1 := by
  cases he : String.utf8EncodeChar c with
  | nil => exact absurd he String.utf8EncodeChar_ne_nil
  | cons first more =>
    have hd := decodeChar_append c []
    rw [he, List.append_nil] at hd
    have hlen := length_of_decodeChar hd
    exact ⟨first, more, rfl, by simpa using hlen.symm⟩

/-! ## Texts -/

/-- `valid` only counts for the place of a fault. -/
theorem decodeFrom_flatMap (cs : List Char) :
    ∀ valid, decodeFrom valid (cs.flatMap String.utf8EncodeChar) = .ok cs := by
  induction cs with
  | nil => intro valid; simp [decodeFrom]
  | cons c cs ih =>
    intro valid
    rw [decodeFrom, if_neg (by simp)]
    have hd := decodeChar_append c (cs.flatMap String.utf8EncodeChar)
    rw [← List.flatMap_cons] at hd
    split
    · next n he => rw [hd] at he; cases he
    · next c' rest he =>
      rw [hd] at he
      cases he
      simp only [ih]

theorem flatMap_of_decodeFrom (valid : ℕ) (bytes : List UInt8) :
    ∀ cs, decodeFrom valid bytes = .ok cs → cs.flatMap String.utf8EncodeChar = bytes := by
  induction valid, bytes using decodeFrom.induct with
  | case1 valid bytes hnil =>
    intro cs h
    rw [decodeFrom, if_pos hnil] at h
    cases h
    rw [List.isEmpty_iff.mp hnil]; rfl
  | case2 valid bytes hne n he =>
    intro cs h
    rw [decodeFrom, if_neg hne] at h
    split at h <;> simp_all
  | case3 valid bytes hne c rest hc _ cs' hrec ih =>
    intro cs h
    rw [decodeFrom, if_neg hne] at h
    split at h
    · cases h
    · next c' rest' hc' =>
      rw [hc] at hc'
      cases hc'
      rw [hrec] at h
      cases h
      rw [List.flatMap_cons, ih _ hrec, append_of_decodeChar hc]
  | case4 valid bytes hne c rest hc _ e hrec ih =>
    intro cs h
    rw [decodeFrom, if_neg hne] at h
    split at h
    · cases h
    · next c' rest' hc' =>
      rw [hc] at hc'
      cases hc'
      rw [hrec] at h
      cases h

/-- The bytes of a text are read as the text. -/
theorem decode_encode (s : String) : decode (encode s) = .ok s := by
  rw [decode, encode, decodeFrom_flatMap]
  simp [Except.map]

theorem encode_injective {s s' : String} (h : encode s = encode s') : s = s' := by
  have hdecode := congrArg decode h
  rw [decode_encode, decode_encode] at hdecode
  exact Except.ok.inj hdecode

/-- Bytes that are read as a text are the bytes of the text. -/
theorem encode_of_decode {bytes : List UInt8} {s : String} (h : decode bytes = .ok s) :
    encode s = bytes := by
  unfold decode at h
  cases hd : decodeFrom 0 bytes with
  | error e => rw [hd] at h; cases h
  | ok cs =>
    rw [hd] at h
    cases h
    rw [encode, String.toList_ofList]
    exact flatMap_of_decodeFrom 0 bytes cs hd

end KeyedRecords.Text.Utf8
