import KeyedRecords.Proofs.Codec.Reader

/-!
# Integers of variable length are read back

Results:
* `reads_decode`: a number is read from its own bytes, for every width that holds it.
* `yields_decode`: what is read fits the width, and its own bytes are those it was read from,
  or fewer.
* `zigzag_unzigzag`, `unzigzag_zigzag`: folding integers onto naturals is a bijection.
-/

namespace KeyedRecords.Codec

open Reader

/-! ## Fixed-width integers -/

theorem length_littleEndian (k n : ℕ) : (littleEndian k n).length = k := by
  induction k generalizing n with
  | zero => rfl
  | succ k ih => rw [littleEndian, List.length_cons, ih]

theorem ofLittleEndian_littleEndian {k n : ℕ} (h : n < 256 ^ k) :
    ofLittleEndian (littleEndian k n) = n := by
  induction k generalizing n with
  | zero => simp only [pow_zero, Nat.lt_one_iff] at h; rw [h]; rfl
  | succ k ih =>
    have hdiv : n / 256 < 256 ^ k := by
      rw [Nat.div_lt_iff_lt_mul (by norm_num), ← pow_succ]
      exact h
    rw [littleEndian, ofLittleEndian, ih hdiv, UInt8.toNat_ofNat']
    omega

theorem littleEndian_ofLittleEndian (bytes : List UInt8) :
    littleEndian bytes.length (ofLittleEndian bytes) = bytes := by
  induction bytes with
  | nil => rfl
  | cons b bs ih =>
    have hb := b.toNat_lt
    have hdiv : (b.toNat + 256 * ofLittleEndian bs) / 256 = ofLittleEndian bs := by omega
    have hlow : UInt8.ofNat (b.toNat + 256 * ofLittleEndian bs) = b := by
      rw [← UInt8.toNat_inj, UInt8.toNat_ofNat']
      omega
    rw [ofLittleEndian, List.length_cons, littleEndian, hdiv, hlow, ih]

theorem ofLittleEndian_lt (bytes : List UInt8) : ofLittleEndian bytes < 256 ^ bytes.length := by
  induction bytes with
  | nil => simp [ofLittleEndian]
  | cons b bs ih =>
    have hb := b.toNat_lt
    rw [ofLittleEndian, List.length_cons, pow_succ]
    omega

/-- Numbers of one width are told apart by their bytes, whatever follows these. -/
theorem littleEndian_append_inj {k m n : ℕ} {bs cs : List UInt8} (hm : m < 256 ^ k)
    (hn : n < 256 ^ k) (h : littleEndian k m ++ bs = littleEndian k n ++ cs) : m = n ∧ bs = cs := by
  obtain ⟨hbytes, hrest⟩ := List.append_inj h (by simp only [length_littleEndian])
  have hnumber := congrArg ofLittleEndian hbytes
  rw [ofLittleEndian_littleEndian hm, ofLittleEndian_littleEndian hn] at hnumber
  exact ⟨hnumber, hrest⟩

/-- Lists of bytes of one length are told apart by their numbers. -/
theorem ofLittleEndian_inj {bs cs : List UInt8} (hlength : bs.length = cs.length)
    (h : ofLittleEndian bs = ofLittleEndian cs) : bs = cs := by
  rw [← littleEndian_ofLittleEndian bs, hlength, h, littleEndian_ofLittleEndian]

/-! ## Natural numbers -/

namespace Varint

/-- A number below 251 is its own tag. -/
theorem reads_decode_small {n : ℕ} (h : n < 251) (signed : Bool) (w : IntWidth) :
    Reads (decode signed w) [UInt8.ofNat n] n := by
  have hn : (UInt8.ofNat n).toNat = n := UInt8.toNat_ofNat_of_lt' (show n < 256 by omega)
  have ht : UInt8.ofNat n < 251 := by rw [UInt8.lt_iff_toNat_lt, hn]; exact h
  refine Reads.after_get fun left => (reads_byte (UInt8.ofNat n)).bind_nil ?_
  rw [if_pos ht, hn]
  exact Reads.pure n

/-- Behind a tag stand as many bytes as it announces. -/
theorem reads_decode_tagged {tag : UInt8} {n : ℕ} (found : IntWidth) (ht : ¬ tag < 251)
    (hf : tagWidth? tag = some found) {w : IntWidth} (hw : found.bits ≤ w.bits)
    (hn : n < 256 ^ (found.bits / 8)) (signed : Bool) :
    Reads (decode signed w) (tag :: littleEndian (found.bits / 8) n) n := by
  have htake := reads_take (littleEndian (found.bits / 8) n)
  rw [length_littleEndian] at htake
  refine Reads.after_get fun left => (reads_byte tag).bind ?_
  rw [if_neg ht, hf]
  dsimp only
  rw [if_pos hw]
  have hread := htake.bind_pure (f := ofLittleEndian)
  rwa [ofLittleEndian_littleEndian hn] at hread

/-- A number is read from its own bytes, for every width that holds it. -/
theorem reads_decode {n : ℕ} {w : IntWidth} (hw : 16 ≤ w.bits) (hn : n < 2 ^ w.bits)
    (signed : Bool) : Reads (decode signed w) (encode n) n := by
  unfold encode
  split_ifs with h1 h2 h3 h4
  · exact reads_decode_small h1 signed w
  · exact reads_decode_tagged .w16 (by decide) rfl hw (by simpa [IntWidth.bits]) signed
  · have hb : 32 ≤ w.bits := by cases w <;> simp only [IntWidth.bits] at hn hw ⊢ <;> omega
    exact reads_decode_tagged .w32 (by decide) rfl hb (by simpa [IntWidth.bits]) signed
  · have hb : 64 ≤ w.bits := by cases w <;> simp only [IntWidth.bits] at hn hw ⊢ <;> omega
    exact reads_decode_tagged .w64 (by decide) rfl hb (by simpa [IntWidth.bits]) signed
  · have hb : 128 ≤ w.bits := by cases w <;> simp only [IntWidth.bits] at hn hw ⊢ <;> omega
    have h128 : n < 2 ^ 128 := by cases w <;> simp only [IntWidth.bits] at hn hb <;> omega
    exact reads_decode_tagged .w128 (by decide) rfl hb (by simpa [IntWidth.bits]) signed

theorem length_encode (n : ℕ) : (encode n).length =
    if n < 251 then 1 else if n < 0x10000 then 3 else if n < 0x100000000 then 5
    else if n < 0x10000000000000000 then 9 else 17 := by
  unfold encode
  split_ifs <;> rfl

/-- Smaller numbers are not written longer. -/
theorem length_encode_mono {m n : ℕ} (h : m ≤ n) : (encode m).length ≤ (encode n).length := by
  rw [length_encode, length_encode]
  split_ifs <;> omega

/-- A tag with as many bytes as it announces is what a number is written as, or longer: a smaller
    number is written with a narrower tag, or as its own. -/
theorem noLonger_encode {tag : UInt8} {found : IntWidth} (hf : tagWidth? tag = some found) {n : ℕ}
    (hn : n < 2 ^ found.bits) : NoLonger (encode n) (tag :: littleEndian (found.bits / 8) n) := by
  have hshorter {least : ℕ} (hleast : n < least)
      (hlength : (encode least.pred).length < 1 + found.bits / 8) :
      NoLonger (encode n) (tag :: littleEndian (found.bits / 8) n) := by
    right
    rw [List.length_cons, length_littleEndian, Nat.add_comm]
    exact lt_of_le_of_lt (length_encode_mono (Nat.le_pred_of_lt hleast)) hlength
  unfold tagWidth? at hf
  split_ifs at hf with h251 h252 h253 h254
  · cases hf
    rcases Nat.lt_or_ge n 251 with hsmall | hlarge
    · exact hshorter hsmall (by decide)
    · left
      rw [encode, if_neg hlarge.not_gt, if_pos (show n < 0x10000 from hn), h251]
      rfl
  · cases hf
    rcases Nat.lt_or_ge n 0x10000 with hsmall | hlarge
    · exact hshorter hsmall (by decide)
    · left
      rw [encode, if_neg (by omega), if_neg hlarge.not_gt,
        if_pos (show n < 0x100000000 from hn), h252]
      rfl
  · cases hf
    rcases Nat.lt_or_ge n 0x100000000 with hsmall | hlarge
    · exact hshorter hsmall (by decide)
    · left
      rw [encode, if_neg (by omega), if_neg (by omega), if_neg hlarge.not_gt,
        if_pos (show n < 0x10000000000000000 from hn), h253]
      rfl
  · cases hf
    rcases Nat.lt_or_ge n 0x10000000000000000 with hsmall | hlarge
    · exact hshorter hsmall (by decide)
    · left
      rw [encode, if_neg (by omega), if_neg (by omega), if_neg (by omega), if_neg hlarge.not_gt,
        h254]
      rfl

theorem bits_of_tagWidth? {tag : UInt8} {found : IntWidth} (h : tagWidth? tag = some found) :
    256 ^ (found.bits / 8) = 2 ^ found.bits := by
  unfold tagWidth? at h
  split_ifs at h <;> cases h <;> decide

/-- As many bytes as a width has make a number of that width, and that number makes the bytes. -/
theorem yields_fixed (k : ℕ) : Yields (take k >>= fun bytes => pure (ofLittleEndian bytes))
    fun used n => n < 256 ^ k ∧ littleEndian k n = used := by
  refine (yields_take k).bind_pure fun used bytes ⟨he, hk⟩ => ?_
  rw [← hk, he]
  exact ⟨ofLittleEndian_lt bytes, littleEndian_ofLittleEndian bytes⟩

/-- What is read fits the width, and its own bytes are those it was read from, or fewer: those may
    carry a wider tag than necessary. -/
theorem yields_decode (signed : Bool) (w : IntWidth) : Yields (decode signed w) fun used n =>
    (n < 251 ∨ n < 2 ^ w.bits) ∧ NoLonger (encode n) used := by
  refine Yields.after_get fun left => yields_byte.bind fun first tag hfirst => ?_
  subst hfirst
  split_ifs with htag
  · have hn : tag.toNat < 251 := UInt8.lt_iff_toNat_lt.mp htag
    refine Yields.pure ⟨.inl hn, .inl ?_⟩
    rw [encode, if_pos hn, UInt8.ofNat_toNat]
    rfl
  · cases hf : tagWidth? tag with
    | none => exact Yields.refuse _
    | some found =>
      dsimp only
      split_ifs with hw
      · refine (yields_fixed (found.bits / 8)).mono fun used n ⟨hn, hused⟩ => ?_
        rw [bits_of_tagWidth? hf] at hn
        refine ⟨.inr (lt_of_lt_of_le hn (Nat.pow_le_pow_right (by norm_num) hw)), ?_⟩
        rw [← hused]
        exact noLonger_encode hf hn
      · exact Yields.refuse _

/-- The lengths of sequences are below 2⁶⁴. -/
theorem yields_decodeLength : Yields decodeLength fun used n =>
    n < 2 ^ 64 ∧ NoLonger (encode n) used := by
  refine (yields_decode false .w64).mono fun used n h => ⟨?_, h.2⟩
  rcases h.1 with h | h
  · omega
  · exact h

theorem reads_decodeLength {n : ℕ} (h : n < 2 ^ 64) : Reads decodeLength (encode n) n :=
  reads_decode (w := .w64) (by decide) h false

/-! ## Signed numbers -/

theorem unzigzag_zigzag (i : ℤ) : unzigzag (zigzag i) = i := by
  cases i with
  | ofNat n =>
    rw [zigzag, unzigzag, if_pos (by omega)]
    congr 1; omega
  | negSucc n =>
    rw [zigzag, unzigzag, if_neg (by omega)]
    congr 1; omega

theorem zigzag_unzigzag (n : ℕ) : zigzag (unzigzag n) = n := by
  unfold unzigzag
  split_ifs with h
  · rw [zigzag]; omega
  · rw [zigzag]; omega

theorem zigzag_lt {i : ℤ} {b : ℕ} (h1 : -2 ^ b ≤ i) (h2 : i < 2 ^ b) :
    zigzag i < 2 ^ (b + 1) := by
  have hb : ((2 ^ b : ℕ) : ℤ) = 2 ^ b := by push_cast; rfl
  rw [← hb] at h1 h2
  rw [pow_succ]
  cases i with
  | ofNat n => rw [zigzag]; simp only [Int.ofNat_eq_natCast] at h2; omega
  | negSucc n => rw [zigzag]; omega

theorem unzigzag_mem {n b : ℕ} (h : n < 2 ^ (b + 1)) :
    -2 ^ b ≤ unzigzag n ∧ unzigzag n < 2 ^ b := by
  have hb : ((2 ^ b : ℕ) : ℤ) = 2 ^ b := by push_cast; rfl
  rw [← hb]
  rw [pow_succ] at h
  unfold unzigzag
  split_ifs
  · simp only [Int.ofNat_eq_natCast]; omega
  · omega

end Varint

end KeyedRecords.Codec
