import KeyedRecords.Proofs.Except
import KeyedRecords.Proofs.Codec.SortedMap
import KeyedRecords.Proofs.Codec.Varint
import KeyedRecords.Proofs.Text.Utf8

/-!
# Values are read back

Result:
* `reads_encode`: a value of any field type is read from its own bytes, whatever follows.

Lengths are written in 64 bits, and what is read needs room in memory. `FieldType.Fits` says that
a value has both: no value in memory is larger.
-/

namespace KeyedRecords.Codec

open Reader

/-! ## Values that can be in memory -/

/-- The length that no sequence reaches. -/
def lengthLimit : ℕ := 2 ^ 64

/-- There is room for the bytes of the text. -/
def TextFits (s : String) : Prop := (Text.Utf8.encode s).length < memoryLimit

/-- There is room for all texts and lists of a value, and their lengths can be written. -/
def FieldType.Fits : (t : FieldType) → t.Value → Prop
  | unit, _ => True
  | bool, _ => True
  | int _ _, _ => True
  | float32, _ => True
  | float64, _ => True
  | char, _ => True
  | string, s => TextFits s
  | path, bytes => List.length bytes < memoryLimit
  | option _, none => True
  | option t, some v => t.Fits v
  | list t size, (vs : List t.Value) =>
    (vs.length < lengthLimit ∧ vs.length * size < memoryLimit) ∧ ∀ v ∈ vs, t.Fits v
  | pair a b, v => a.Fits v.1 ∧ b.Fits v.2
  | array t _, vs => ∀ v ∈ vs.1, t.Fits v
  | map t, m => (SortedMap.entries m).length < lengthLimit ∧
      ∀ e ∈ SortedMap.entries m, TextFits e.1 ∧ t.Fits e.2
  | result t _, .ok v => t.Fits v
  | result _ e, .error v => e.Fits v

/-! ## Runs of encoded values -/

theorem encodeAll_cons {α : Type} {encode : α → Except EncodeFault (List UInt8)} {a : α}
    {as : List α} {bytes : List UInt8} : encodeAll encode (a :: as) = .ok bytes ↔
      ∃ first second, bytes = first ++ second ∧ encode a = .ok first ∧
        encodeAll encode as = .ok second := by
  simp only [encodeAll, bind_eq_ok_iff, pure_eq_ok_iff]
  constructor
  · rintro ⟨first, ha, second, has, rfl⟩
    exact ⟨first, second, rfl, ha, has⟩
  · rintro ⟨first, second, rfl, ha, has⟩
    exact ⟨first, ha, second, has, rfl⟩

/-- The bytes of values one after the other. -/
theorem encodeAll_eq_ok_iff {α : Type} {encode : α → Except EncodeFault (List UInt8)} {as : List α}
    {bytes : List UInt8} :
    encodeAll encode as = .ok bytes ↔ Pieces (fun part a => encode a = .ok part) bytes as := by
  induction as generalizing bytes with
  | nil => rw [pieces_nil_iff, encodeAll]; simp [eq_comm]
  | cons a as ih =>
    rw [encodeAll_cons, pieces_cons_iff]
    simp only [ih]

/-- Values that were read from some bytes, each of which can be written in no more bytes
    than it was read from, can be written in no more than all. -/
theorem Pieces.encodeAll {α : Type} {encode : α → Except EncodeFault (List UInt8)}
    {used : List UInt8} {as : List α}
    (h : Pieces (fun part a => ∃ out, encode a = .ok out ∧ out.length ≤ part.length) used as) :
    ∃ out, encodeAll encode as = .ok out ∧ out.length ≤ used.length := by
  induction as generalizing used with
  | nil => exact ⟨[], rfl, Nat.zero_le _⟩
  | cons a as ih =>
    obtain ⟨first, second, rfl, ⟨out, ha, hle⟩, has⟩ := pieces_cons_iff.mp h
    obtain ⟨outs, hs, hles⟩ := ih has
    refine ⟨out ++ outs, encodeAll_cons.mpr ⟨out, outs, rfl, ha, hs⟩, ?_⟩
    rw [List.length_append, List.length_append]
    omega

theorem Pieces.length_eq {α : Type} {P : List UInt8 → α → Prop} {bytes : List UInt8} {as : List α}
    (h : Pieces P bytes as) (hP : ∀ part a, P part a → part.length = 1) :
    bytes.length = as.length := by
  induction as generalizing bytes with
  | nil => rw [pieces_nil_iff.mp h]; rfl
  | cons a as ih =>
    obtain ⟨first, second, rfl, ha, has⟩ := pieces_cons_iff.mp h
    rw [List.length_append, hP first a ha, ih has, List.length_cons]
    omega

/-! ## Texts -/

theorem lt_lengthLimit {n : ℕ} (h : n < memoryLimit) : n < lengthLimit := h.trans (by decide)

theorem reads_readBlock {bytes : List UInt8} (h : bytes.length < memoryLimit) :
    Reads readBlock (Varint.encode bytes.length ++ bytes) bytes := by
  refine (Varint.reads_decodeLength (lt_lengthLimit h)).bind ?_
  exact (reads_take bytes).after_allocate (by rwa [Nat.mul_one])

theorem yields_readBlock : Yields readBlock fun used bytes =>
    bytes.length < memoryLimit ∧ NoLonger (Varint.encode bytes.length ++ bytes) used := by
  refine Varint.yields_decodeLength.bind fun first n hn => Yields.after_allocate fun hroom => ?_
  refine (yields_take n).mono fun second bytes hb => ?_
  obtain ⟨rfl, rfl⟩ := hb
  rw [Nat.mul_one] at hroom
  exact ⟨hroom, hn.2.append (.refl second)⟩

theorem reads_readText {s : String} (h : TextFits s) : Reads readText (encodeText s) s := by
  refine (reads_readBlock h).bind_nil ?_
  rw [Text.Utf8.decode_encode]
  exact Reads.pure s

theorem yields_readText : Yields readText fun used s =>
    TextFits s ∧ NoLonger (encodeText s) used := by
  refine yields_readBlock.bind fun first bytes hb => ?_
  cases hd : Text.Utf8.decode bytes with
  | error f => exact Yields.refuse _
  | ok s =>
    refine Yields.pure ?_
    rw [List.append_nil, TextFits, encodeText, Text.Utf8.encode_of_decode hd]
    exact hb

/-! ## Characters and tags -/

theorem reads_readChar (c : Char) : Reads readChar (String.utf8EncodeChar c) c := by
  obtain ⟨first, more, he, hw⟩ := Text.Utf8.utf8EncodeChar_eq_cons c
  have hd := Text.Utf8.decodeChar_append c []
  rw [he, List.append_nil] at hd
  rw [he, ← List.singleton_append]
  refine (reads_byte first).bind ?_
  rw [hw]
  refine (reads_take more).bind_nil ?_
  rw [hd]
  exact Reads.pure c

theorem yields_readChar : Yields readChar fun used c => used = String.utf8EncodeChar c := by
  refine yields_byte.bind fun used first hfirst => ?_
  subst hfirst
  cases hw : Text.Utf8.width first with
  | zero => exact Yields.refuse _
  | succ n =>
    refine (yields_take n).bind fun used more hmore => ?_
    obtain ⟨rfl, hlen⟩ := hmore
    cases hd : Text.Utf8.decodeChar (first :: used) with
    | error e => exact Yields.refuse _
    | ok p =>
      obtain ⟨c, rest⟩ := p
      have hrest := Text.Utf8.length_of_decodeChar hd
      have hnil : rest = [] := List.eq_nil_of_length_eq_zero (by omega)
      refine Yields.pure ?_
      rw [List.append_nil, List.singleton_append, Text.Utf8.append_of_decodeChar hd, hnil,
        List.append_nil]

theorem Reads.readTag {tag : Reader ℕ} {bytes : List UInt8} {b : Bool}
    (h : Reads tag bytes (if b then 1 else 0)) (name : String) :
    Reads (readTag name tag) bytes b := by
  refine h.bind_nil ?_
  cases b <;> exact Reads.pure _

theorem Yields.readTag {tag : Reader ℕ} {P : List UInt8 → ℕ → Prop} (h : Yields tag P)
    (name : String) : Yields (readTag name tag) fun used b => P used (if b then 1 else 0) := by
  refine h.bind fun used n hn => ?_
  match n with
  | 0 => exact Yields.pure (by rw [List.append_nil]; exact hn)
  | 1 => exact Yields.pure (by rw [List.append_nil]; exact hn)
  | n + 2 => exact Yields.refuse _

namespace FieldType

/-! ## Reading back -/

/-- Values of the type are read from their own bytes. -/
def RoundTrips (t : FieldType) : Prop :=
  ∀ (v : t.Value) (bytes : List UInt8), t.encode v = .ok bytes → t.Fits v → Reads t.read bytes v

/-- Every width but the smallest is written with a tag where that is needed. -/
theorem encode_int_wide {signed : Bool} {w : IntWidth} (hw : w ≠ .w8) (v : BitVec w.bits) :
    (int signed w).encode v =
      .ok (Varint.encode (if signed then Varint.zigzag v.toInt else v.toNat)) := by
  cases w <;> first | exact absurd rfl hw | rfl

theorem read_int_wide {signed : Bool} {w : IntWidth} (hw : w ≠ .w8) : (int signed w).read =
    (Varint.decode signed w >>= fun n =>
      pure (if signed then BitVec.ofInt w.bits (Varint.unzigzag n)
        else BitVec.ofNat w.bits n)) := by
  cases w <;> first | exact absurd rfl hw | rfl

theorem sixteen_le_bits {w : IntWidth} (hw : w ≠ .w8) : 16 ≤ w.bits := by
  cases w <;> first | exact absurd rfl hw | decide

theorem roundTrips_int (signed : Bool) (w : IntWidth) : (int signed w).RoundTrips := by
  intro v bytes he _
  change BitVec w.bits at v
  by_cases hw : w = .w8
  · subst hw
    cases he
    change BitVec 8 at v
    have h := (reads_byte (UInt8.ofNat v.toNat)).bind_pure (f := fun b => BitVec.ofNat 8 b.toNat)
    rwa [UInt8.toNat_ofNat_of_lt' v.isLt, BitVec.ofNat_toNat, BitVec.setWidth_eq] at h
  · rw [encode_int_wide hw] at he
    cases he
    rw [read_int_wide hw]
    have hbits := sixteen_le_bits hw
    cases signed with
    | false =>
      have h := (Varint.reads_decode hbits v.isLt false).bind_pure (f := BitVec.ofNat w.bits)
      rw [BitVec.ofNat_toNat, BitVec.setWidth_eq] at h
      exact h
    | true =>
      have hlt : Varint.zigzag v.toInt < 2 ^ w.bits := by
        have := Varint.zigzag_lt (BitVec.le_toInt v) BitVec.toInt_lt
        rwa [show w.bits - 1 + 1 = w.bits by omega] at this
      have h := (Varint.reads_decode hbits hlt true).bind_pure
        (f := fun n => BitVec.ofInt w.bits (Varint.unzigzag n))
      rw [Varint.unzigzag_zigzag, BitVec.ofInt_toInt] at h
      exact h

/-- A word is read from its bytes. -/
theorem reads_word {b k : ℕ} (hb : 2 ^ b = 256 ^ k) (v : BitVec b) :
    Reads (take k >>= fun bytes => pure (BitVec.ofNat b (ofLittleEndian bytes)))
      (littleEndian k v.toNat) v := by
  have h := (reads_take (littleEndian k v.toNat)).bind_pure
    (f := fun bytes => BitVec.ofNat b (ofLittleEndian bytes))
  have hlt : v.toNat < 256 ^ k := by rw [← hb]; exact v.isLt
  rwa [length_littleEndian, ofLittleEndian_littleEndian hlt, BitVec.ofNat_toNat,
    BitVec.setWidth_eq] at h

theorem roundTrips_bool : bool.RoundTrips := by
  intro v bytes he _
  cases he
  cases v
  · exact (reads_byte 0).bind_nil (Reads.pure false)
  · exact (reads_byte 1).bind_nil (Reads.pure true)

theorem roundTrips_path : path.RoundTrips := by
  intro v bytes he hf
  change List UInt8 at v
  simp only [encode] at he
  cases hd : Text.Utf8.decode v with
  | error f => rw [hd] at he; cases he
  | ok s =>
    rw [hd] at he
    cases he
    have hv := Text.Utf8.encode_of_decode hd
    have h := (reads_readText (s := s) (by rw [TextFits, hv]; exact hf)).bind_pure
      (f := Text.Utf8.encode)
    rw [hv] at h
    exact h

variable {t a b : FieldType}

theorem RoundTrips.option (ht : t.RoundTrips) : t.option.RoundTrips := by
  intro v bytes he hf
  change Option t.Value at v
  cases v with
  | none =>
    cases he
    have htag : Reads (readTag t.option.name (UInt8.toNat <$> byte)) [0] false :=
      Reads.readTag (reads_byte 0).bind_pure _
    exact htag.bind_nil (Reads.pure none)
  | some v =>
    obtain ⟨out, hv, hout⟩ := bind_eq_ok_iff.mp he
    cases hout
    have htag : Reads (readTag t.option.name (UInt8.toNat <$> byte)) [1] true :=
      Reads.readTag (reads_byte 1).bind_pure _
    exact htag.bind (ht v out hv hf).bind_pure

/-- The bytes of bytes are as many as they. -/
theorem length_of_isByte (ht : t.isByte) {v : t.Value} {bytes : List UInt8}
    (h : t.encode v = .ok bytes) : bytes.length = 1 := by
  unfold isByte at ht
  split at ht
  · cases h; rfl
  · cases ht

/-- The values of a run are read from the bytes of the run. -/
theorem RoundTrips.pieces (ht : t.RoundTrips) {vs : List t.Value} {bytes : List UInt8}
    (he : encodeAll t.encode vs = .ok bytes) (hf : ∀ v ∈ vs, t.Fits v) :
    Pieces (Reads t.read) bytes vs :=
  (encodeAll_eq_ok_iff.mp he).mono_mem fun v hv part hpart => ht v part hpart (hf v hv)

/-- Bytes are asked for as one block. -/
theorem reads_block {α : Type} {r : Reader α} {vs : List t.Value} {bytes : List UInt8} {v : α}
    (he : encodeAll t.encode vs = .ok bytes) (hr : Reads r bytes v) :
    Reads (if t.isByte then require vs.length >>= fun _ => r else r) bytes v := by
  split_ifs with hb
  · have hlen := (encodeAll_eq_ok_iff.mp he).length_eq fun part a h => length_of_isByte hb h
    exact hr.after_require hlen.ge
  · exact hr

theorem RoundTrips.list (ht : t.RoundTrips) (size : ℕ) : (t.list size).RoundTrips := by
  intro v bytes he hf
  change List t.Value at v
  obtain ⟨out, hv, hout⟩ := bind_eq_ok_iff.mp he
  cases hout
  refine (Varint.reads_decodeLength hf.1.1).bind (.after_allocate hf.1.2 ?_)
  exact reads_block hv (Reads.many (ht.pieces hv hf.2))

theorem RoundTrips.array (ht : t.RoundTrips) (n : ℕ) : (t.array n).RoundTrips := by
  rintro ⟨vs, rfl⟩ bytes he hf
  exact reads_block he (Reads.exactly rfl (ht.pieces he hf))

theorem RoundTrips.pair (ha : a.RoundTrips) (hb : b.RoundTrips) : (a.pair b).RoundTrips := by
  rintro ⟨v, w⟩ bytes he hf
  obtain ⟨first, hv, he⟩ := bind_eq_ok_iff.mp he
  obtain ⟨second, hw, hout⟩ := bind_eq_ok_iff.mp he
  cases hout
  exact (ha v first hv hf.1).bind (hb w second hw hf.2).bind_pure

theorem RoundTrips.map (ht : t.RoundTrips) : t.map.RoundTrips := by
  intro m bytes he hf
  change SortedMap t.Value at m
  obtain ⟨out, hm, hout⟩ := bind_eq_ok_iff.mp he
  cases hout
  have hentry : ∀ e ∈ m.entries, ∀ part, (do
      let value ← t.encode e.2
      pure (encodeText e.1 ++ value)) = .ok part →
      Reads (do
        let k ← readText
        let v ← t.read
        pure (k, v)) part e := by
    intro e he part hpart
    obtain ⟨value, hvalue, hout⟩ := bind_eq_ok_iff.mp hpart
    cases hout
    obtain ⟨hkey, hfits⟩ := hf.2 e he
    exact (reads_readText hkey).bind (ht e.2 value hvalue hfits).bind_pure
  have hread := Reads.many ((encodeAll_eq_ok_iff.mp hm).mono_mem hentry)
  refine (Varint.reads_decodeLength hf.1).bind ?_
  have h := hread.bind_pure (f := SortedMap.ofList)
  rwa [SortedMap.ofList_entries] at h

theorem reads_alternative (second : Bool) (name : String) :
    Reads (readTag name (Varint.decode false .w32))
      (Varint.encode (if second then 1 else 0)) second := by
  refine Reads.readTag (Varint.reads_decode (w := .w32) (by decide) ?_ false) name
  cases second <;> decide

theorem RoundTrips.result (ha : a.RoundTrips) (hb : b.RoundTrips) : (a.result b).RoundTrips := by
  intro v bytes he hf
  change Except b.Value a.Value at v
  cases v with
  | ok v =>
    obtain ⟨out, hv, hout⟩ := bind_eq_ok_iff.mp he
    cases hout
    exact (reads_alternative false _).bind (ha v out hv hf).bind_pure
  | error v =>
    obtain ⟨out, hv, hout⟩ := bind_eq_ok_iff.mp he
    cases hout
    exact (reads_alternative true _).bind (hb v out hv hf).bind_pure

theorem roundTrips (t : FieldType) : t.RoundTrips := by
  induction t with
  | unit => intro v bytes he _; cases he; exact Reads.pure ()
  | bool => exact roundTrips_bool
  | int signed w => exact roundTrips_int signed w
  | float32 => intro v bytes he _; cases he; exact reads_word (by norm_num) v
  | float64 => intro v bytes he _; cases he; exact reads_word (by norm_num) v
  | char => intro c bytes he _; cases he; exact reads_readChar c
  | string => intro s bytes he hf; cases he; exact reads_readText hf
  | path => exact roundTrips_path
  | option t ht => exact ht.option
  | list t size ht => exact ht.list size
  | pair a b ha hb => exact ha.pair hb
  | array t n ht => exact ht.array n
  | map t ht => exact ht.map
  | result a b ha hb => exact ha.result hb

/-- A value of any field type is read from its own bytes, whatever follows. -/
theorem reads_encode {t : FieldType} {v : t.Value} {bytes : List UInt8}
    (h : t.encode v = .ok bytes) (hf : t.Fits v) : Reads t.read bytes v :=
  roundTrips t v bytes h hf

end FieldType

end KeyedRecords.Codec
