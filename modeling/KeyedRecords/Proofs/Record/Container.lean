import KeyedRecords.Record.Container
import KeyedRecords.Proofs.Codec.Canonical
import KeyedRecords.Proofs.Lists

/-!
# Containers and their bytes

Results:
* `get?_insert`: storing under a key changes what is found under that key only.
* `ofBytes_toBytes`: a container is read from its own bytes.
* `fits_of_ofBytes`, `noLonger_of_ofBytes`: a container that was read can be written, as the bytes
  it was read from or as fewer.
* `decodeValue_eq_ok_iff`: a value is read from what is found under its key, to the last byte.
* `decodeBytes_of_encode`, `writable_of_decodeBytes`: a value is read from its own bytes, and
  a value that was read can be written, in no more bytes than it was read from.
-/

namespace KeyedRecords

open Codec Reader

/-! ## Reading all of the bytes -/

section Whole

variable {α : Type} {r : Reader α} {bytes : List UInt8} {a : α}

theorem readWhole_eq_ok_iff : readWhole r bytes = .ok a ↔ r bytes = .ok (a, []) := by
  unfold readWhole
  cases h : r bytes with
  | error f => simp
  | ok p =>
    obtain ⟨b, rest⟩ := p
    cases rest with
    | nil => simp
    | cons x xs => simp

/-- Reading fails if there is no value, or if bytes are left over behind it. -/
theorem readWhole_eq_fail_iff {failure : ReadFailure} :
    readWhole r bytes = .error (.fail failure) ↔
      (∃ fault, r bytes = .error (.fail fault) ∧ failure = .fault fault) ∨
        ∃ a rest, r bytes = .ok (a, rest) ∧ rest ≠ [] ∧ failure = .leftover rest.length := by
  unfold readWhole
  cases h : r bytes with
  | error stop => cases stop <;> simp [Stop.map, eq_comm]
  | ok p =>
    obtain ⟨b, rest⟩ := p
    cases rest with
    | nil => simp
    | cons x xs => simp [eq_comm]

theorem readWhole_eq_panic_iff :
    readWhole r bytes = .error .panic ↔ r bytes = .error .panic := by
  unfold readWhole
  cases h : r bytes with
  | error stop => cases stop <;> simp [Stop.map]
  | ok p =>
    obtain ⟨b, rest⟩ := p
    cases rest with
    | nil => simp
    | cons x xs => simp

theorem readWhole_of_reads (h : Reads r bytes a) : readWhole r bytes = .ok a := by
  have := h []
  rw [List.append_nil] at this
  exact readWhole_eq_ok_iff.mpr this

theorem of_readWhole {P : List UInt8 → α → Prop} (hr : Yields r P)
    (h : readWhole r bytes = .ok a) : P bytes a := by
  obtain ⟨used, he, hp⟩ := hr bytes a [] (readWhole_eq_ok_iff.mp h)
  rw [List.append_nil] at he
  rwa [he]

end Whole

namespace Container

/-! ## Entries under keys -/

section Entries

variable {c : Container} {key k : KeyLiteral} {bytes : List UInt8}

theorem get?_eq_none_iff : c.get? key = none ↔ key ∉ c.keys := by
  unfold get? keys
  rw [Option.map_eq_none_iff, List.find?_eq_none, List.mem_map]
  constructor
  · rintro h ⟨e, he, rfl⟩
    exact h e he (by simp)
  · intro h e he hk
    exact h ⟨e, he, by simpa using hk⟩

/-- What is found under a key is an entry. -/
theorem mem_of_get? (h : c.get? key = some bytes) : ⟨key, bytes⟩ ∈ c.entries := by
  obtain ⟨e, he, rfl⟩ := Option.map_eq_some_iff.mp h
  have hk : e.key = key := by simpa using List.find?_some he
  rw [← hk]
  exact List.mem_of_find?_eq_some he

/-- Where no key is repeated, every entry is found under its key. -/
theorem get?_of_mem (hn : c.keys.Nodup) (h : ⟨key, bytes⟩ ∈ c.entries) :
    c.get? key = some bytes := by
  unfold get?
  rw [find?_of_nodup hn h, Option.map_some]

theorem get?_cons (e : Entry) (es : List Entry) (schema : UInt64) :
    (⟨schema, e :: es⟩ : Container).get? key =
      if e.key = key then some e.bytes else (⟨schema, es⟩ : Container).get? key := by
  unfold get?
  rw [List.find?_cons]
  split_ifs with h
  · simp [h]
  · simp [h]

/-- Storing under a key changes what is found under that key only. -/
theorem get?_insert : (c.insert key bytes).get? k = if key = k then some bytes else c.get? k := by
  obtain ⟨schema, entries⟩ := c
  simp only [insert]
  induction entries with
  | nil => rw [insertEntry, get?_cons]
  | cons e es ih =>
    rw [insertEntry]
    by_cases he : e.key = key
    · rw [if_pos he, get?_cons, get?_cons, he]
      split_ifs <;> rfl
    · rw [if_neg he, get?_cons, get?_cons, ih]
      by_cases hk : e.key = k
      · rw [if_pos hk, if_pos hk, if_neg fun h => he (hk.trans h.symm)]
      · rw [if_neg hk, if_neg hk]

/-- An entry under a new key comes last. -/
theorem insert_of_not_mem (h : key ∉ c.keys) :
    c.insert key bytes = ⟨c.schema, c.entries ++ [⟨key, bytes⟩]⟩ := by
  obtain ⟨schema, entries⟩ := c
  have aux : ∀ es : List Entry, key ∉ es.map Entry.key →
      insertEntry key bytes es = es ++ [⟨key, bytes⟩] := by
    intro es
    induction es with
    | nil => intro _; rfl
    | cons e es ih =>
      intro h
      rw [List.map_cons, List.mem_cons, not_or] at h
      rw [insertEntry, if_neg fun he => h.1 he.symm, ih h.2, List.cons_append]
  rw [insert, aux entries h]

end Entries

end Container

/-! ## Containers that can be in memory -/

/-- There is room for a text literal. -/
def KeyLiteral.Fits : KeyLiteral → Prop
  | .text s => TextFits s
  | .int _ => True

instance : DecidablePred KeyLiteral.Fits
  | .text _ => Nat.decLt _ _
  | .int _ => .isTrue trivial

/-- There is room for the entries of a container, their keys and their bytes. -/
structure Container.Fits (c : Container) : Prop where
  count : c.entries.length * Container.entrySize < memoryLimit
  key : ∀ e ∈ c.entries, e.key.Fits
  bytes : ∀ e ∈ c.entries, e.bytes.length < memoryLimit

namespace Container

instance : DecidablePred Fits := fun c =>
  decidable_of_iff (c.entries.length * entrySize < memoryLimit ∧ (∀ e ∈ c.entries, e.key.Fits) ∧
      ∀ e ∈ c.entries, e.bytes.length < memoryLimit)
    ⟨fun h => ⟨h.1, h.2.1, h.2.2⟩, fun h => ⟨h.count, h.key, h.bytes⟩⟩

theorem reads_readLiteral {key : KeyLiteral} (h : key.Fits) :
    Reads readLiteral (literalBytes key) key := by
  cases key with
  | text s =>
    have htag : Reads (readTag "KeyLiteral" (Varint.decode false .w32)) (Varint.encode 0) false :=
      FieldType.reads_alternative false _
    exact htag.bind (reads_readText h).bind_pure
  | int i =>
    have htag : Reads (readTag "KeyLiteral" (Varint.decode false .w32)) (Varint.encode 1) true :=
      FieldType.reads_alternative true _
    have hlt : Varint.zigzag i.toInt < 2 ^ 64 := Varint.zigzag_lt (b := 63) i.le_toInt i.toInt_lt
    have hint := (Varint.reads_decode (w := .w64) (by decide) hlt true).bind_pure
      (f := fun n => KeyLiteral.int (Int64.ofInt (Varint.unzigzag n)))
    rw [Varint.unzigzag_zigzag, Int64.ofInt_toInt] at hint
    exact htag.bind hint

theorem reads_readEntry {e : Entry} (hk : e.key.Fits) (hb : e.bytes.length < memoryLimit) :
    Reads readEntry (entryBytes e) e := by
  unfold entryBytes
  rw [List.append_assoc]
  exact (reads_readLiteral hk).bind (reads_readBlock hb).bind_pure

theorem reads_entries {es : List Entry} (hk : ∀ e ∈ es, e.key.Fits)
    (hb : ∀ e ∈ es, e.bytes.length < memoryLimit) :
    Pieces (Reads readEntry) (es.flatMap entryBytes) es := by
  induction es with
  | nil => exact Pieces.nil
  | cons e es ih =>
    rw [List.flatMap_cons]
    refine (ih (fun e he => hk e (List.mem_cons_of_mem _ he)) fun e he =>
      hb e (List.mem_cons_of_mem _ he)).cons ?_
    exact reads_readEntry (hk e List.mem_cons_self) (hb e List.mem_cons_self)

theorem Fits.length_lt {c : Container} (h : c.Fits) : c.entries.length < lengthLimit := by
  have hcount := h.count
  unfold entrySize at hcount
  exact lt_lengthLimit (by omega)

theorem reads_toBytes {c : Container} (h : c.Fits) : Reads read c.toBytes c := by
  have hschema := Varint.reads_decode (w := .w64) (by decide) c.schema.toNat_lt false
  have hentries := (Reads.many (reads_entries h.key h.bytes)).bind_pure (f := Container.mk c.schema)
  unfold toBytes
  rw [List.append_assoc]
  refine hschema.bind ((Varint.reads_decodeLength h.length_lt).bind (.after_allocate h.count ?_))
  rw [UInt64.ofNat_toNat]
  exact hentries

/-- A container is read from its own bytes. -/
theorem ofBytes_toBytes {c : Container} (h : c.Fits) : ofBytes c.toBytes = .ok c := by
  unfold ofBytes
  rw [readWhole_of_reads (reads_toBytes h)]
  rfl

theorem yields_readLiteral : Yields readLiteral fun used key =>
    key.Fits ∧ NoLonger (literalBytes key) used := by
  refine (Yields.readTag (Varint.yields_decode false .w32) _).bind fun first isInt ⟨_, hfirst⟩ => ?_
  cases isInt with
  | true =>
    refine (Varint.yields_decode true .w64).bind_pure fun second n ⟨hn, hsecond⟩ => ⟨trivial, ?_⟩
    have hlt : n < 2 ^ 64 := by
      rcases hn with hn | hn
      · exact hn.trans (by norm_num)
      · exact hn
    -- the integer that was read is written as the number that it was read from
    obtain ⟨hlow, hhigh⟩ := Varint.unzigzag_mem (b := 63) hlt
    rw [literalBytes, Int64.toInt_ofInt_of_le hlow hhigh, Varint.zigzag_unzigzag]
    exact hfirst.append hsecond
  | false =>
    exact yields_readText.bind_pure fun second s ⟨hfits, hsecond⟩ =>
      ⟨hfits, hfirst.append hsecond⟩

theorem yields_readEntry : Yields readEntry fun used e =>
    (e.key.Fits ∧ e.bytes.length < memoryLimit) ∧ NoLonger (entryBytes e) used := by
  refine yields_readLiteral.bind fun first key ⟨hk, hfirst⟩ => ?_
  refine yields_readBlock.bind_pure fun second bytes ⟨hb, hsecond⟩ => ⟨⟨hk, hb⟩, ?_⟩
  rw [entryBytes, List.append_assoc]
  exact hfirst.append hsecond

/-- What is read as a container can be written, as the bytes it was read from or as fewer. -/
theorem yields_read : Yields read fun used c => c.Fits ∧ NoLonger c.toBytes used := by
  refine (Varint.yields_decode false .w64).bind fun first schema ⟨hschema, hfirst⟩ => ?_
  refine Varint.yields_decodeLength.bind fun second n ⟨_, hsecond⟩ =>
    Yields.after_allocate fun hroom => ?_
  refine (Yields.many yields_readEntry n).bind_pure fun third es ⟨hlen, hes⟩ => ⟨⟨?_, ?_, ?_⟩, ?_⟩
  · rwa [hlen]
  · intro e he
    obtain ⟨part, hpart⟩ := hes.of_mem he
    exact hpart.1.1
  · intro e he
    obtain ⟨part, hpart⟩ := hes.of_mem he
    exact hpart.1.2
  · have hthird : NoLonger (es.flatMap entryBytes) third :=
      (hes.mono_mem fun e _ part hpart => hpart.2).noLonger
    have hlt : schema < 2 ^ 64 := by
      rcases hschema with h | h
      · exact h.trans (by norm_num)
      · exact h
    rw [toBytes, UInt64.toNat_ofNat_of_lt' hlt, hlen, List.append_assoc]
    exact hfirst.append (hsecond.append hthird)

/-- A container that was read can be written. -/
theorem fits_of_ofBytes {c : Container} {bytes : List UInt8} (h : ofBytes bytes = .ok c) :
    c.Fits :=
  (of_readWhole yields_read (mapError_eq_ok_iff.mp h)).1

/-- A container that was read is written as the bytes it was read from, or as fewer. -/
theorem noLonger_of_ofBytes {c : Container} {bytes : List UInt8} (h : ofBytes bytes = .ok c) :
    NoLonger c.toBytes bytes :=
  (of_readWhole yields_read (mapError_eq_ok_iff.mp h)).2

/-! ## Values under keys -/

section Values

variable {c : Container} {key : KeyLiteral} {t : FieldType} {v : t.Value} {bytes : List UInt8}

theorem decodeValue_of_get? (h : c.get? key = some bytes) :
    c.decodeValue key t = decodeBytes key t bytes := by
  rw [decodeValue, h]

theorem decodeValue_of_get?_eq_none (h : c.get? key = none) :
    c.decodeValue key t = .error (.fail (.missingKey key)) := by
  rw [decodeValue, h]

theorem decodeBytes_eq_ok_iff : decodeBytes key t bytes = .ok v ↔ t.read bytes = .ok (v, []) :=
  mapError_eq_ok_iff.trans readWhole_eq_ok_iff

theorem decodeBytes_eq_fail_iff {e : DecodeError} : decodeBytes key t bytes = .error (.fail e) ↔
    ∃ failure, readWhole t.read bytes = .error (.fail failure) ∧ e = .typeMismatch key failure := by
  unfold decodeBytes
  cases readWhole t.read bytes with
  | ok v => simp [Except.mapError]
  | error stop => cases stop <;> simp [Except.mapError, Stop.map, eq_comm]

theorem decodeBytes_eq_panic_iff :
    decodeBytes key t bytes = .error .panic ↔ t.read bytes = .error .panic := by
  rw [← readWhole_eq_panic_iff]
  unfold decodeBytes
  cases readWhole t.read bytes with
  | ok v => simp [Except.mapError]
  | error stop => cases stop <;> simp [Except.mapError, Stop.map]

theorem decodeValue_eq_ok_iff : c.decodeValue key t = .ok v ↔
    ∃ bytes, c.get? key = some bytes ∧ t.read bytes = .ok (v, []) := by
  cases h : c.get? key with
  | none => simp [decodeValue_of_get?_eq_none h]
  | some bytes => simp [decodeValue_of_get? h, decodeBytes_eq_ok_iff]

/-- A value is read from its own bytes. -/
theorem decodeBytes_of_encode (h : t.encode v = .ok bytes) (hf : t.Fits v) (key : KeyLiteral) :
    decodeBytes key t bytes = .ok v := by
  unfold decodeBytes
  rw [readWhole_of_reads (FieldType.reads_encode h hf)]
  rfl

/-- A value that was read can be written, in no more bytes than it was read from. -/
theorem writable_of_decodeBytes (h : decodeBytes key t bytes = .ok v) :
    t.WrittenWithin bytes v :=
  of_readWhole (FieldType.yields_read t) (mapError_eq_ok_iff.mp h)

end Values

end Container

end KeyedRecords
