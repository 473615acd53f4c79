import KeyedRecords.Proofs.Codec.Value

/-!
# What is read can be written

Bytes may write a value with wider tags than necessary, or repeat the keys of a map. The
value that is read from them is written in its own way, which is never longer.

Result:
* `yields_read`: whatever bytes are read as a value, the value fits and can be written, in no
  more bytes than it was read from.
-/

namespace KeyedRecords.Codec

open Reader

namespace FieldType

/-- The value fits and can be written in no more bytes than there are in `used`. -/
def WrittenWithin (t : FieldType) (used : List UInt8) (v : t.Value) : Prop :=
  t.Fits v ∧ ∃ out, t.encode v = .ok out ∧ out.length ≤ used.length

/-- What is read as a value can be written within the bytes that it was read from. -/
def Settles (t : FieldType) : Prop := Yields t.read t.WrittenWithin

theorem settles_bool : bool.Settles := by
  refine yields_byte.bind fun used b hb => ?_
  subst hb
  split_ifs
  · exact Yields.pure ⟨trivial, [0], rfl, le_rfl⟩
  · exact Yields.pure ⟨trivial, [1], rfl, le_rfl⟩
  · exact Yields.refuse _

theorem settles_int (signed : Bool) (w : IntWidth) : (int signed w).Settles := by
  by_cases hw : w = .w8
  · subst hw
    refine yields_byte.bind_pure fun used b hb => ?_
    subst hb
    exact ⟨trivial, [UInt8.ofNat (BitVec.ofNat 8 b.toNat).toNat], rfl, le_rfl⟩
  · unfold Settles
    rw [read_int_wide hw]
    refine (Varint.yields_decode signed w).bind_pure fun used n ⟨hn, hlen⟩ => ⟨trivial, ?_⟩
    have hbits := sixteen_le_bits hw
    have hlt : n < 2 ^ w.bits := by
      rcases hn with hn | hn
      · exact lt_of_lt_of_le hn (le_trans (by norm_num) (Nat.pow_le_pow_right (by norm_num) hbits))
      · exact hn
    -- the number that was read is the one that the value is written as
    refine ⟨Varint.encode n, ?_, hlen.length_le⟩
    rw [encode_int_wide hw]
    cases signed with
    | false => simp only [Bool.false_eq_true, if_false, BitVec.toNat_ofNat, Nat.mod_eq_of_lt hlt]
    | true =>
      obtain ⟨h1, h2⟩ := Varint.unzigzag_mem (n := n) (b := w.bits - 1)
        (by rwa [show w.bits - 1 + 1 = w.bits by omega])
      simp only [if_true]
      rw [BitVec.toInt_ofInt_eq_self (by omega) h1 h2, Varint.zigzag_unzigzag]

/-- Any `k` bytes are those of some word. -/
theorem yields_word {t : FieldType} {k : ℕ} {f : List UInt8 → t.Value}
    (h : ∀ bytes, ∃ n, t.Fits (f bytes) ∧ t.encode (f bytes) = .ok (littleEndian k n)) :
    Yields (take k >>= fun bytes => pure (f bytes)) t.WrittenWithin := by
  refine (yields_take k).bind_pure fun used bytes ⟨he, hk⟩ => ?_
  obtain ⟨n, hf, hn⟩ := h bytes
  refine ⟨hf, _, hn, ?_⟩
  rw [length_littleEndian, he, hk]

theorem settles_path : path.Settles := by
  refine yields_readText.bind_pure fun used s ⟨hf, hlen⟩ => ⟨hf, encodeText s, ?_, hlen.length_le⟩
  simp only [encode, Text.Utf8.decode_encode]

variable {t a b : FieldType}

theorem Settles.option (ht : t.Settles) : t.option.Settles := by
  refine (Yields.readTag (yields_byte.bind_pure (f := UInt8.toNat)
    (Q := fun used _ => used.length = 1) fun used a h => by rw [h]; rfl) _).bind
      fun first present hfirst => ?_
  cases present with
  | false =>
    refine Yields.pure ⟨trivial, [0], rfl, ?_⟩
    rw [List.append_nil, hfirst]
    exact le_rfl
  | true =>
    refine ht.bind_pure fun second v ⟨hf, out, hv, hlen⟩ => ⟨hf, 1 :: out, ?_, ?_⟩
    · exact bind_eq_ok_iff.mpr ⟨out, hv, rfl⟩
    · rw [List.length_cons, List.length_append, hfirst]
      omega

/-- The values of a run fit and can be written within the bytes of the run. -/
theorem writtenWithin_pieces {used : List UInt8} {vs : List t.Value}
    (h : Pieces t.WrittenWithin used vs) :
    (∀ v ∈ vs, t.Fits v) ∧ ∃ out, encodeAll t.encode vs = .ok out ∧ out.length ≤ used.length := by
  constructor
  · intro v hv
    obtain ⟨part, hpart⟩ := h.of_mem hv
    exact hpart.1
  · exact (h.mono_mem fun v _ part hpart => hpart.2).encodeAll

theorem Settles.list (ht : t.Settles) (size : ℕ) : (t.list size).Settles := by
  refine Varint.yields_decodeLength.bind fun first n ⟨hn, hfirst⟩ =>
    Yields.after_allocate fun hroom => ?_
  have hmany : Yields (many t.read n) fun second vs =>
      (t.list size).WrittenWithin (first ++ second) vs := by
    refine (Yields.many ht n).mono fun second vs ⟨hlen, hvs⟩ => ?_
    obtain ⟨hf, out, hout, hle⟩ := writtenWithin_pieces hvs
    have hlength := hfirst.length_le
    refine ⟨⟨by rw [hlen]; exact ⟨hn, hroom⟩, hf⟩, Varint.encode vs.length ++ out, ?_, ?_⟩
    · exact bind_eq_ok_iff.mpr ⟨out, hout, rfl⟩
    · rw [hlen, List.length_append, List.length_append]
      omega
  split_ifs
  · exact hmany.after_require
  · exact hmany

theorem Settles.array (ht : t.Settles) (n : ℕ) : (t.array n).Settles := by
  have hexact : Yields (exactly t.read n) (t.array n).WrittenWithin :=
    (Yields.exactly ht n).mono fun used vs hvs => writtenWithin_pieces hvs
  unfold Settles read
  split_ifs
  · exact hexact.after_require
  · exact hexact

theorem Settles.pair (ha : a.Settles) (hb : b.Settles) : (a.pair b).Settles := by
  refine ha.bind fun first v ⟨hf, out, hv, hle⟩ => ?_
  refine hb.bind_pure fun second w ⟨hf', out', hw, hle'⟩ => ⟨⟨hf, hf'⟩, out ++ out', ?_, ?_⟩
  · exact bind_eq_ok_iff.mpr ⟨out, hv, bind_eq_ok_iff.mpr ⟨out', hw, rfl⟩⟩
  · rw [List.length_append, List.length_append]
    omega

theorem Settles.map (ht : t.Settles) : t.map.Settles := by
  refine Varint.yields_decodeLength.bind fun first n ⟨hn, hfirst⟩ => ?_
  have hentry : Yields (do
      let k ← readText
      let v ← t.read
      pure (k, v)) fun used (e : String × t.Value) => (TextFits e.1 ∧ t.Fits e.2) ∧
        ∃ out, (do
          let value ← t.encode e.2
          pure (encodeText e.1 ++ value)) = .ok out ∧ out.length ≤ used.length := by
    refine yields_readText.bind fun first k ⟨hk, hlen⟩ => ?_
    refine ht.bind_pure fun second v ⟨hf, out, hv, hle⟩ =>
      ⟨⟨hk, hf⟩, encodeText k ++ out, bind_eq_ok_iff.mpr ⟨out, hv, rfl⟩, ?_⟩
    have hkey := hlen.length_le
    rw [List.length_append, List.length_append]
    omega
  refine (Yields.many hentry n).bind_pure fun second es ⟨hlen, hes⟩ => ?_
  obtain ⟨bytes, hbytes, hle⟩ := hes.ofList
  obtain ⟨out, hout, hle'⟩ := (hbytes.mono_mem fun e _ part hpart => hpart.2).encodeAll
  have hcount := SortedMap.length_entries_ofList_le es
  refine ⟨⟨?_, fun e he => ?_⟩, Varint.encode (SortedMap.ofList es).entries.length ++ out, ?_, ?_⟩
  · exact lt_of_le_of_lt (hcount.trans hlen.le) hn
  · obtain ⟨part, hpart⟩ := hbytes.of_mem he
    exact hpart.1
  · exact bind_eq_ok_iff.mpr ⟨out, hout, rfl⟩
  · have := Varint.length_encode_mono (hcount.trans hlen.le)
    have hlength := hfirst.length_le
    rw [List.length_append, List.length_append]
    omega

theorem Settles.result (ha : a.Settles) (hb : b.Settles) : (a.result b).Settles := by
  refine (Yields.readTag (Varint.yields_decode false .w32) _).bind
    fun first failed ⟨_, hfirst⟩ => ?_
  cases failed with
  | true =>
    refine hb.bind_pure fun second v ⟨hf, out, hv, hle⟩ =>
      ⟨hf, Varint.encode 1 ++ out, bind_eq_ok_iff.mpr ⟨out, hv, rfl⟩, ?_⟩
    simp only [if_true] at hfirst
    have htag := hfirst.length_le
    rw [List.length_append, List.length_append]
    omega
  | false =>
    refine ha.bind_pure fun second v ⟨hf, out, hv, hle⟩ =>
      ⟨hf, Varint.encode 0 ++ out, bind_eq_ok_iff.mpr ⟨out, hv, rfl⟩, ?_⟩
    simp only [Bool.false_eq_true, if_false] at hfirst
    have htag := hfirst.length_le
    rw [List.length_append, List.length_append]
    omega

/-- Whatever bytes are read as a value, the value fits and can be written, in no more bytes
    than it was read from. -/
theorem yields_read (t : FieldType) : Yields t.read t.WrittenWithin := by
  induction t with
  | unit => exact Yields.pure ⟨trivial, [], rfl, le_rfl⟩
  | bool => exact settles_bool
  | int signed w => exact settles_int signed w
  | float32 => exact yields_word fun bytes => ⟨_, trivial, rfl⟩
  | float64 => exact yields_word fun bytes => ⟨_, trivial, rfl⟩
  | char =>
    exact yields_readChar.mono fun used c h =>
      ⟨trivial, String.utf8EncodeChar c, rfl, by rw [h]⟩
  | string => exact yields_readText.mono fun used s ⟨hf, hle⟩ => ⟨hf, encodeText s, rfl, hle.length_le⟩
  | path => exact settles_path
  | option t ht => exact Settles.option ht
  | list t size ht => exact Settles.list ht size
  | pair a b ha hb => exact Settles.pair ha hb
  | array t n ht => exact Settles.array ht n
  | map t ht => exact Settles.map ht
  | result a b ha hb => exact Settles.result ha hb

end FieldType

end KeyedRecords.Codec
