import KeyedRecords.Proofs.Codec.Extension
import KeyedRecords.Proofs.Codec.Writable
import KeyedRecords.Proofs.Record.Container

/-!
# Nothing more and nothing less

A container and a value are read from their own bytes only: what follows them is reported with
its length, and a part of them is refused. A container is also read from other bytes, with wider
tags than necessary, but its own are the shortest.

Results:
* `toBytes_self_delimiting`: for the bytes of a container.
* `toBytes_shortest`: all other bytes that are read as a container are more than its own.
* `field_round_trip`: for the bytes of a value under a key. An encoder stores the value there or
  leaves its container as it was.
-/

namespace KeyedRecords

open Codec Reader

/-! ## Reading all of the bytes -/

section Whole

variable {α : Type} {r : Reader α} {bytes part : List UInt8} {a : α}

/-- Bytes that follow the value are reported with their number. -/
theorem readWhole_append (h : Reads r bytes a) (more : List UInt8) :
    readWhole r (bytes ++ more) =
      if more = [] then .ok a else .error (.fail (.leftover more.length)) := by
  unfold readWhole
  rw [h more]
  simp only [List.isEmpty_iff]

theorem readWhole_part (h : Reads r bytes a) (hr : Extends r r) (hpart : part <+: bytes)
    (hne : part ≠ bytes) : ∃ fault, readWhole r part = .error (.fail (.fault fault)) := by
  obtain ⟨fault, hf⟩ := h.refuses hr hpart hne
  exact ⟨fault, readWhole_eq_fail_iff.mpr (.inl ⟨fault, hf, rfl⟩)⟩

end Whole

namespace Container

/-! ## The bytes of a container -/

theorem extends_readLiteral : Extends readLiteral readLiteral := by
  refine (extends_readTag (Varint.extends_decode false .w32) _).bind fun isInt => ?_
  cases isInt with
  | true => exact (Varint.extends_decode true .w64).bind_pure _
  | false => exact extends_readText.bind_pure _

theorem extends_readEntry : Extends readEntry readEntry :=
  extends_readLiteral.bind fun key => extends_readBlock.bind_pure (Entry.mk key)

theorem extends_read : Extends read read := by
  refine (Varint.extends_decode false .w64).bind fun schema => ?_
  exact Varint.extends_decodeLength.bind fun n => (extends_allocate n entrySize).bind fun _ =>
    (extends_readEntry.many n).bind_pure _

/-- A container is read from its own bytes, and not from more or fewer. The bytes of two
    containers with anything behind them tell the containers apart. -/
theorem toBytes_self_delimiting (c : Container) (h : c.Fits) :
    ofBytes c.toBytes = .ok c ∧
      (∀ more, more ≠ [] → ∃ e, ofBytes (c.toBytes ++ more) = .error (.fail e) ∧
        e = .corrupted (.leftover more.length) ∧
        e.message = "The record container is corrupted: " ++
          (toString more.length ++ " trailing bytes after record")) ∧
      (∀ part, part <+: c.toBytes → part ≠ c.toBytes →
        ∃ fault, ofBytes part = .error (.fail (.corrupted (.fault fault)))) ∧
      ∀ c' : Container, c'.Fits → ∀ more more', c.toBytes ++ more = c'.toBytes ++ more' →
        c = c' ∧ more = more' := by
  have hreads := reads_toBytes h
  refine ⟨ofBytes_toBytes h, ?_, ?_, fun c' h' more more' => hreads.cancel (reads_toBytes h')⟩
  · intro more hmore
    refine ⟨_, ?_, rfl, rfl⟩
    unfold ofBytes
    rw [readWhole_append hreads, if_neg hmore]
    rfl
  · intro part hpart hne
    obtain ⟨fault, hf⟩ := readWhole_part hreads extends_read hpart hne
    exact ⟨fault, by rw [ofBytes, hf]; rfl⟩

/-- The greatest fingerprint, the least integer, a text that is there twice, and no bytes. -/
def extremes : Container :=
  ⟨UInt64.ofNat (2 ^ 64 - 1), [⟨.int Int64.minValue, []⟩, ⟨.text "a", [7]⟩, ⟨.text "a", []⟩]⟩

theorem toBytes_self_delimiting_extremes :
    extremes.Fits ∧
      ofBytes (extremes.toBytes ++ [0, 0]) = .error (.fail (.corrupted (.leftover 2))) ∧
      ∃ fault, ofBytes extremes.toBytes.dropLast = .error (.fail (.corrupted (.fault fault))) := by
  obtain ⟨-, hmore, hpart, -⟩ := toBytes_self_delimiting extremes (by decide)
  obtain ⟨_, he, rfl, -⟩ := hmore [0, 0] (by decide)
  exact ⟨by decide, he, hpart _ (List.dropLast_prefix _) (by decide)⟩

/-- Whatever bytes are read as a container, the container is written as these bytes or as fewer,
    and it is read back from what was written: to read and write that once more changes nothing. -/
theorem toBytes_shortest {bytes : List UInt8} {c : Container} (h : ofBytes bytes = .ok c) :
    c.toBytes.length ≤ bytes.length ∧ (c.toBytes.length = bytes.length ↔ c.toBytes = bytes) ∧
      ofBytes c.toBytes = .ok c ∧ (ofBytes c.toBytes).map toBytes = .ok c.toBytes := by
  have hlonger := noLonger_of_ofBytes h
  have hread := ofBytes_toBytes (fits_of_ofBytes h)
  refine ⟨hlonger.length_le, ⟨hlonger.eq_of_length, congrArg List.length⟩, hread, ?_⟩
  rw [hread]
  rfl

/-- A container with two entries, all of whose numbers have wider tags than necessary: the
    fingerprint, the number of entries, the kinds of the keys, the lengths and the integer. -/
def widelyTagged : List UInt8 :=
  [252, 5, 0, 0, 0] ++ [251, 2, 0] ++
    ([251, 0, 0] ++ [253, 1, 0, 0, 0, 0, 0, 0, 0, 0x61] ++ [252, 1, 0, 0, 0, 7]) ++
    ([252, 1, 0, 0, 0] ++ [251, 1, 0] ++ [251, 0, 0])

/-- Written anew the container has ten bytes, and these are read as the same container. -/
theorem toBytes_shortest_widelyTagged :
    let c : Container := ⟨5, [⟨.text "a", [7]⟩, ⟨.int (-1), []⟩]⟩
    ofBytes widelyTagged = .ok c ∧ widelyTagged.length = 38 ∧
      c.toBytes = [5, 2, 0, 1, 0x61, 1, 7, 1, 1, 0] ∧ c.toBytes ≠ widelyTagged ∧
      ofBytes [5, 2, 0, 1, 0x61, 1, 7, 1, 1, 0] = .ok c := by
  intro c
  have hread : ofBytes widelyTagged = .ok c := by decide +kernel
  have hwritten : c.toBytes = [5, 2, 0, 1, 0x61, 1, 7, 1, 1, 0] := by decide +kernel
  obtain ⟨-, hlength, hagain, -⟩ := toBytes_shortest hread
  refine ⟨hread, rfl, hwritten, fun h => ?_, hwritten ▸ hagain⟩
  rw [← hlength, hwritten] at h
  exact absurd h (by decide)

/-! ## Values under keys -/

/-- An encoder stores what can be written, and keeps its container otherwise. -/
theorem Encoder.encode_eq (key : KeyLiteral) (t : FieldType) (v : t.Value) (c : Container) :
    Encoder.encode key t v c =
      ((c.encodeValue key t v).map fun _ => (), (c.encodeValue key t v).toOption.getD c) := by
  unfold Encoder.encode encodeValue
  cases t.encode v with
  | ok bytes => rfl
  | error fault => rfl

/-- What a container holds under the key is read as the value if it is these bytes. If it goes on
    behind them or ends before, it is refused. -/
structure ReadExactly (key : KeyLiteral) (t : FieldType) (v : t.Value) (bytes : List UInt8) :
    Prop where
  whole : ∀ c : Container, c.get? key = some bytes → c.decodeValue key t = .ok v
  longer : ∀ (c : Container) (more : List UInt8), more ≠ [] → c.get? key = some (bytes ++ more) →
    ∃ e, c.decodeValue key t = .error (.fail e) ∧ e = .typeMismatch key (.leftover more.length) ∧
      e.message = "Value stored under " ++ key.display ++
        " does not decode as the declared type: " ++ (toString more.length ++ " unread bytes")
  shorter : ∀ (c : Container) (part : List UInt8), part <+: bytes → part ≠ bytes →
    c.get? key = some part →
      ∃ fault, c.decodeValue key t = .error (.fail (.typeMismatch key (.fault fault)))

theorem readExactly_of_encode {t : FieldType} {v : t.Value} {bytes : List UInt8}
    (h : t.encode v = .ok bytes) (hfits : t.Fits v) (key : KeyLiteral) :
    ReadExactly key t v bytes := by
  have hreads := FieldType.reads_encode h hfits
  refine ⟨fun c hget => ?_, fun c more hmore hget => ⟨_, ?_, rfl, rfl⟩,
    fun c part hpart hne hget => ?_⟩
  · rw [decodeValue_of_get? hget, decodeBytes, readWhole_of_reads hreads]
    rfl
  · rw [decodeValue_of_get? hget, decodeBytes, readWhole_append hreads, if_neg hmore]
    rfl
  · obtain ⟨fault, hf⟩ := readWhole_part hreads (FieldType.extends_read t) hpart hne
    exact ⟨fault, by rw [decodeValue_of_get? hget, decodeBytes, hf]; rfl⟩

/-- An encoder stores every value with UTF-8 in its paths, and the value is read back from its
    own bytes only. A value with another path leaves the container as it was. -/
theorem field_round_trip (key : KeyLiteral) (t : FieldType) (v : t.Value) (c : Container) :
    (t.Fits v → t.PathsAreText v → ∃ bytes, t.encode v = .ok bytes ∧
      Encoder.encode key t v c = (.ok (), c.insert key bytes) ∧
      (c.insert key bytes).decodeValue key t = .ok v ∧ ReadExactly key t v bytes) ∧
    (¬ t.PathsAreText v →
      Encoder.encode key t v c = (.error ⟨key, .invalidPathCharacters⟩, c)) := by
  constructor
  · intro hfits htext
    obtain ⟨bytes, hbytes⟩ := (FieldType.writable t v).mpr htext
    have hexact := readExactly_of_encode hbytes hfits key
    refine ⟨bytes, hbytes, ?_, hexact.whole _ ?_, hexact⟩
    · rw [Encoder.encode_eq, encodeValue, hbytes]
      rfl
    · rw [get?_insert, if_pos rfl]
  · intro htext
    rw [Encoder.encode_eq, encodeValue, FieldType.encode_eq_error htext]
    rfl

/-- A number and a path with a letter of two bytes. -/
def numberedPath : (FieldType.pair (.int true .w128) .path).Value :=
  (BitVec.ofInt 128 (-1), [0x61, 0xc3, 0xa9])

/-- A number and a path that ends within a letter. -/
def brokenPath : (FieldType.pair (.int true .w128) .path).Value :=
  (BitVec.ofInt 128 (-1), [0x61, 0xc3])

theorem field_round_trip_paths :
    let t := FieldType.pair (.int true .w128) .path
    let c := empty 0
    (t.Fits numberedPath ∧ t.PathsAreText numberedPath ∧
      ∃ bytes, Encoder.encode (.int (-1)) t numberedPath c = (.ok (), c.insert (.int (-1)) bytes) ∧
        (c.insert (.int (-1)) bytes).decodeValue (.int (-1)) t = .ok numberedPath) ∧
      t.Fits brokenPath ∧ ¬ t.PathsAreText brokenPath ∧
        Encoder.encode (.int (-1)) t brokenPath c =
          (.error ⟨.int (-1), .invalidPathCharacters⟩, c) := by
  intro t c
  have hfits : t.Fits numberedPath := ⟨trivial, (by decide : 3 < memoryLimit)⟩
  have htext : t.PathsAreText numberedPath := by decide +kernel
  obtain ⟨bytes, -, hstored, hread, -⟩ := (field_round_trip (.int (-1)) t _ c).1 hfits htext
  have hbroken : t.Fits brokenPath := ⟨trivial, (by decide : 2 < memoryLimit)⟩
  have hnot : ¬ t.PathsAreText brokenPath := by decide +kernel
  have hrefused := (field_round_trip (.int (-1)) t _ c).2 hnot
  exact ⟨⟨hfits, htext, bytes, hstored, hread⟩, hbroken, hnot, hrefused⟩

end Container

end KeyedRecords
