import KeyedRecords.Record.Schema
import KeyedRecords.Proofs.Record.Container

/-!
# Records and their containers

Results:
* `encodeAll_eq_ok_iff`: values that are stored under new keys become the last entries, in the
  order of the calls.
* `decodeWith_eq_ok_iff`, `decodeWith_eq_error_iff`: a record is read when every field is, and
  fails with the error of the first field that is not.
* `toContainer_eq_ok_iff`: the container of a record has one entry per field, in order.
* `ofContainer_of_holds`, `ofBytes_of_holds`: the record is read back from it.
-/

namespace KeyedRecords

open Codec

/-! ## Values under keys -/

/-- A value and the key that it is stored under. -/
abbrev KeyedValue := KeyLiteral × (t : FieldType) × t.Value

/-- The entry is what storing the value leaves. -/
def Entry.Holds (e : Entry) (w : KeyedValue) : Prop :=
  e.key = w.1 ∧ w.2.1.encode w.2.2 = .ok e.bytes

namespace Container

variable {c c' : Container} {ws : List KeyedValue}

theorem keys_of_holds {es : List Entry} (h : List.Forall₂ Entry.Holds es ws) :
    es.map Entry.key = ws.map Prod.fst := by
  induction h with
  | nil => rfl
  | cons h _ ih => rw [List.map_cons, List.map_cons, h.1, ih]

theorem exists_of_holds {es : List Entry} (h : List.Forall₂ Entry.Holds es ws) {e : Entry}
    (he : e ∈ es) : ∃ w ∈ ws, e.Holds w := by
  induction h with
  | nil => cases he
  | cons h _ ih =>
    rcases List.mem_cons.mp he with rfl | he
    · exact ⟨_, List.mem_cons_self, h⟩
    · obtain ⟨w, hw, hew⟩ := ih he
      exact ⟨w, List.mem_cons_of_mem _ hw, hew⟩

theorem mem_of_holds {es : List Entry} (h : List.Forall₂ Entry.Holds es ws) {w : KeyedValue}
    (hw : w ∈ ws) : ∃ bytes, (⟨w.1, bytes⟩ : Entry) ∈ es ∧ w.2.1.encode w.2.2 = .ok bytes := by
  induction h with
  | nil => cases hw
  | @cons e w' es ws h _ ih =>
    rcases List.mem_cons.mp hw with rfl | hw
    · refine ⟨e.bytes, ?_, h.2⟩
      rw [← h.1]
      exact List.mem_cons_self
    · obtain ⟨bytes, hmem, he⟩ := ih hw
      exact ⟨bytes, List.mem_cons_of_mem e hmem, he⟩

theorem encodeValue_eq_ok_iff {key : KeyLiteral} {t : FieldType} {v : t.Value} :
    c.encodeValue key t v = .ok c' ↔ ∃ bytes, t.encode v = .ok bytes ∧ c' = c.insert key bytes := by
  unfold encodeValue
  cases t.encode v with
  | ok bytes => simp [eq_comm]
  | error fault => simp

/-- Values that are stored under new keys become the last entries, in the order of the calls. -/
theorem encodeAll_eq_ok_iff (hn : (c.keys ++ ws.map Prod.fst).Nodup) :
    c.encodeAll ws = .ok c' ↔
      ∃ es, List.Forall₂ Entry.Holds es ws ∧ c' = ⟨c.schema, c.entries ++ es⟩ := by
  induction ws generalizing c with
  | nil =>
    simp only [encodeAll, List.forall₂_nil_right_iff, exists_eq_left, List.append_nil]
    exact ⟨fun h => by cases h; rfl, fun h => by rw [h]⟩
  | cons w ws ih =>
    obtain ⟨key, t, v⟩ := w
    have hnew : key ∉ c.keys := fun hk =>
      List.disjoint_of_nodup_append hn hk (by simp)
    have hkeys : ∀ bytes, ((c.insert key bytes).keys ++ ws.map Prod.fst).Nodup := by
      intro bytes
      rw [insert_of_not_mem hnew]
      simpa [keys, List.append_assoc] using hn
    simp only [encodeAll, bind_eq_ok_iff, encodeValue_eq_ok_iff]
    constructor
    · rintro ⟨_, ⟨bytes, hv, rfl⟩, h⟩
      obtain ⟨es, hes, rfl⟩ := (ih (hkeys bytes)).mp h
      refine ⟨⟨key, bytes⟩ :: es, .cons ⟨rfl, hv⟩ hes, ?_⟩
      rw [insert_of_not_mem hnew, List.append_assoc, List.singleton_append]
    · rintro ⟨es, hes, rfl⟩
      cases hes with
      | @cons e _ es _ h hes =>
        obtain ⟨k, bytes⟩ := e
        obtain ⟨rfl, hv⟩ := h
        refine ⟨_, ⟨bytes, hv, rfl⟩, (ih (hkeys bytes)).mpr ⟨es, hes, ?_⟩⟩
        rw [insert_of_not_mem hnew, List.append_assoc, List.singleton_append]

end Container

namespace Values

/-! ## The values of a record -/

section Fields

variable {f : KeyedField} {fs : List KeyedField}

/-- A property of all fields holds of the first and of the others. -/
theorem forall_get_cons {P : (f : KeyedField) → f.type.Value → Prop} {v : f.type.Value}
    {vs : Values fs} :
    (∀ i : Fin (f :: fs).length, P ((f :: fs).get i) (@get (f :: fs) (v, vs) i)) ↔
      P f v ∧ ∀ i : Fin fs.length, P (fs.get i) (vs.get i) := by
  constructor
  · intro h
    exact ⟨h 0, fun i => h i.succ⟩
  · rintro ⟨h0, hs⟩ ⟨i, hi⟩
    cases i with
    | zero => exact h0
    | succ i => exact hs ⟨i, Nat.lt_of_succ_lt_succ hi⟩

/-- Every value under the key that `key` picks for its field, in order. -/
def keyed (key : KeyedField → KeyLiteral) : {fs : List KeyedField} → Values fs → List KeyedValue
  | [], _ => []
  | f :: _, (v, vs) => (key f, ⟨f.type, v⟩) :: keyed key vs

variable {key : KeyedField → KeyLiteral}

theorem map_fst_keyed : ∀ {fs : List KeyedField} (r : Values fs),
    (r.keyed key).map Prod.fst = fs.map key
  | [], _ => rfl
  | f :: fs, (v, vs) => by rw [keyed, List.map_cons, List.map_cons, map_fst_keyed vs]

theorem forall_mem_keyed {P : KeyedValue → Prop} : ∀ {fs : List KeyedField} {r : Values fs},
    (∀ w ∈ r.keyed key, P w) ↔ ∀ i : Fin fs.length, P (key (fs.get i), ⟨(fs.get i).type, r.get i⟩)
  | [], _ => by simp [keyed]
  | f :: fs, (v, vs) => by
    rw [keyed, List.forall_mem_cons, forall_mem_keyed,
      forall_get_cons (P := fun f v => P (key f, ⟨f.type, v⟩))]

theorem mem_keyed (r : Values fs) (i : Fin fs.length) :
    (key (fs.get i), ⟨(fs.get i).type, r.get i⟩) ∈ r.keyed key :=
  forall_mem_keyed.mp (fun _ hw => hw) i

theorem encodeInto_eq_encodeAll : ∀ {fs : List KeyedField} (r : Values fs) (c : Container),
    r.encodeInto key c = c.encodeAll (r.keyed key)
  | [], _, _ => rfl
  | f :: fs, (v, vs), c => by
    simp only [encodeInto, keyed, Container.encodeAll]
    congr 1
    funext c
    exact encodeInto_eq_encodeAll vs c

end Fields

/-! ## Reading every field -/

section Decode

variable {ε : Type} {decode : (f : KeyedField) → Except ε f.type.Value} {fs : List KeyedField}

theorem decodeWith_cons_eq_ok_iff {f : KeyedField} {v : f.type.Value} {vs : Values fs} :
    decodeWith decode (f :: fs) = .ok (v, vs) ↔
      decode f = .ok v ∧ decodeWith decode fs = .ok vs := by
  change (decode f >>= fun v => decodeWith decode fs >>= fun vs => pure (v, vs) :
    Except ε (f.type.Value × Values fs)) = .ok (v, vs) ↔ _
  simp only [bind_eq_ok_iff, pure_eq_ok_iff]
  constructor
  · rintro ⟨w, hw, ws, hws, h⟩
    cases h
    exact ⟨hw, hws⟩
  · rintro ⟨hv, hvs⟩
    exact ⟨v, hv, vs, hvs, rfl⟩

theorem decodeWith_cons_eq_error_iff {f : KeyedField} {e : ε} :
    decodeWith decode (f :: fs) = .error e ↔
      decode f = .error e ∨ (∃ v, decode f = .ok v) ∧ decodeWith decode fs = .error e := by
  change (decode f >>= fun v => decodeWith decode fs >>= fun vs => pure (v, vs) :
    Except ε (f.type.Value × Values fs)) = .error e ↔ _
  have hpure : ∀ p : f.type.Value × Values fs,
      (pure p : Except ε (f.type.Value × Values fs)) ≠ .error e := by
    rintro p ⟨⟩
  simp only [bind_eq_error_iff, hpure, and_false, exists_false, or_false, exists_and_right]

/-- A record is read when every field is. -/
theorem decodeWith_eq_ok_iff {r : Values fs} :
    decodeWith decode fs = .ok r ↔ ∀ i : Fin fs.length, decode (fs.get i) = .ok (r.get i) := by
  induction fs with
  | nil => exact ⟨fun _ i => i.elim0, fun _ => rfl⟩
  | cons f fs ih =>
    obtain ⟨v, vs⟩ := r
    rw [forall_get_cons (P := fun f v => decode f = .ok v), ← ih]
    exact decodeWith_cons_eq_ok_iff

/-- Reading fails with the error of the first field that cannot be read. -/
theorem decodeWith_eq_error_iff {e : ε} : decodeWith decode fs = .error e ↔
    ∃ i : Fin fs.length, decode (fs.get i) = .error e ∧
      ∀ j < i, ∃ v : (fs.get j).type.Value, decode (fs.get j) = .ok v := by
  induction fs with
  | nil =>
    constructor
    · intro h
      cases h
    · rintro ⟨i, -⟩
      exact i.elim0
  | cons f fs ih =>
    rw [decodeWith_cons_eq_error_iff, ih]
    constructor
    · rintro (hf | ⟨⟨v, hv⟩, i, hi, hbefore⟩)
      · exact ⟨(0 : Fin (fs.length + 1)), hf, fun j hj => absurd hj (Nat.not_lt_zero _)⟩
      · refine ⟨i.succ, hi, fun j hj => ?_⟩
        obtain ⟨j, hjlt⟩ := j
        cases j with
        | zero => exact ⟨v, hv⟩
        | succ j => exact hbefore ⟨j, Nat.lt_of_succ_lt_succ hjlt⟩ (Nat.lt_of_succ_lt_succ hj)
    · rintro ⟨⟨i, hilt⟩, hi, hbefore⟩
      cases i with
      | zero => exact .inl hi
      | succ i =>
        refine .inr ⟨hbefore (0 : Fin (fs.length + 1)) (Nat.zero_lt_succ i),
          ⟨i, Nat.lt_of_succ_lt_succ hilt⟩, hi, fun j hj => ?_⟩
        exact hbefore j.succ (Nat.succ_lt_succ hj)

end Decode

end Values

namespace RecordSchema

variable {s : RecordSchema} {c : Container} {r : s.Record}

/-! ## Containers with the values of a record -/

/-- The keys that `key` picks for fields are distinct, and there is room for records under
    them. -/
structure WellKeyed (key : KeyedField → KeyLiteral) (fs : List KeyedField) : Prop where
  nodup : (fs.map key).Nodup
  count : fs.length * Container.entrySize < memoryLimit
  fits : ∀ f ∈ fs, (key f).Fits

/-- The current keys are distinct, and there is room for the records. -/
abbrev WellFormed (s : RecordSchema) : Prop := WellKeyed KeyedField.key s.fields

/-- Every value of the record can be written, and there is room for it and its bytes. -/
def Storable (s : RecordSchema) (r : s.Record) : Prop :=
  ∀ i : Fin s.fields.length, (s.fields.get i).type.Fits (r.get i) ∧
    ∃ bytes, (s.fields.get i).type.encode (r.get i) = .ok bytes ∧ bytes.length < memoryLimit

/-- The value of every field of such a record is read back from its own bytes. -/
theorem Storable.reads (h : s.Storable r) {i : Fin s.fields.length} {bytes : List UInt8}
    (hb : (s.fields.get i).type.encode (r.get i) = .ok bytes) :
    (s.fields.get i).type.read bytes = .ok (r.get i, []) := by
  have hread := FieldType.reads_encode hb (h i).1 []
  rwa [List.append_nil] at hread

/-- The entries of the container hold the values of the record under the keys that `key` picks,
    in some order. -/
def Stores (s : RecordSchema) (key : KeyedField → KeyLiteral) (c : Container) (r : s.Record) :
    Prop :=
  ∃ ws, ws.Perm (r.keyed key) ∧ List.Forall₂ Entry.Holds c.entries ws

section Stores

variable {key : KeyedField → KeyLiteral}

/-- The keys of the entries are those of the fields. -/
theorem Stores.keys_perm (h : s.Stores key c r) : c.keys.Perm (s.fields.map key) := by
  obtain ⟨ws, hperm, hws⟩ := h
  rw [← Values.map_fst_keyed r, Container.keys, Container.keys_of_holds hws]
  exact hperm.map Prod.fst

/-- The value of every field is in the container under the key of the field. -/
theorem Stores.get? (hs : WellKeyed key s.fields) (h : s.Stores key c r)
    (i : Fin s.fields.length) : ∃ bytes, c.get? (key (s.fields.get i)) = some bytes ∧
      (s.fields.get i).type.encode (r.get i) = .ok bytes := by
  have hn : c.keys.Nodup := h.keys_perm.nodup_iff.mpr hs.nodup
  obtain ⟨ws, hperm, hws⟩ := h
  obtain ⟨bytes, hmem, hb⟩ :=
    Container.mem_of_holds hws (hperm.mem_iff.mpr (Values.mem_keyed r i))
  exact ⟨bytes, Container.get?_of_mem hn hmem, hb⟩

/-- Such a container can be written. -/
theorem Stores.fits (hs : WellKeyed key s.fields) (hr : s.Storable r) (h : s.Stores key c r) :
    c.Fits := by
  have hkeys := h.keys_perm
  refine ⟨?_, fun e he => ?_, fun e he => ?_⟩
  · have hlen := hkeys.length_eq
    rw [Container.keys, List.length_map, List.length_map] at hlen
    rw [hlen]
    exact hs.count
  · have hmem := hkeys.mem_iff.mp (List.mem_map_of_mem he)
    obtain ⟨f, hf, hk⟩ := List.mem_map.mp hmem
    rw [← hk]
    exact hs.fits f hf
  · obtain ⟨ws, hperm, hws⟩ := h
    obtain ⟨w, hw, -, hv⟩ := Container.exists_of_holds hws he
    have hlen : ∀ w ∈ r.keyed key, ∀ bytes, w.2.1.encode w.2.2 = .ok bytes →
        bytes.length < memoryLimit := by
      refine Values.forall_mem_keyed.mpr fun i bytes hb => ?_
      obtain ⟨out, hout, hlt⟩ := (hr i).2
      have : out = bytes := Except.ok.inj (hout.symm.trans hb)
      rwa [← this]
    exact hlen w (hperm.mem_iff.mp hw) _ hv

end Stores

/-! ## The container of a record -/

/-- The container has exactly one entry for each field, in order, which holds the value of
    the field under its current key. -/
structure Holds (s : RecordSchema) (c : Container) (r : s.Record) : Prop where
  schema : c.schema = s.keys.fingerprint
  entries : List.Forall₂ Entry.Holds c.entries (r.keyed KeyedField.key)

theorem Holds.stores (h : s.Holds c r) : s.Stores KeyedField.key c r := ⟨_, .refl _, h.entries⟩

theorem toContainer_eq_ok_iff (hs : s.WellFormed) : s.toContainer r = .ok c ↔ s.Holds c r := by
  have hn : ((Container.forKeys s.keys).keys ++ (r.keyed KeyedField.key).map Prod.fst).Nodup := by
    rw [Values.map_fst_keyed]
    exact hs.nodup
  unfold toContainer
  rw [Values.encodeInto_eq_encodeAll, Container.encodeAll_eq_ok_iff hn]
  constructor
  · rintro ⟨es, hes, rfl⟩
    exact ⟨rfl, hes⟩
  · rintro ⟨hschema, hentries⟩
    refine ⟨c.entries, hentries, ?_⟩
    rw [Container.forKeys, Container.empty, ← hschema, List.nil_append]

/-- Values that can be written have entries. -/
theorem exists_entries {ws : List KeyedValue}
    (h : ∀ w ∈ ws, ∃ bytes, w.2.1.encode w.2.2 = .ok bytes) :
    ∃ es, List.Forall₂ Entry.Holds es ws := by
  induction ws with
  | nil => exact ⟨[], .nil⟩
  | cons w ws ih =>
    obtain ⟨bytes, hw⟩ := h w List.mem_cons_self
    obtain ⟨es, hes⟩ := ih fun w hw => h w (List.mem_cons_of_mem _ hw)
    exact ⟨⟨w.1, bytes⟩ :: es, .cons ⟨rfl, hw⟩ hes⟩

/-- The values of such a record have entries under any keys of its fields. -/
theorem Storable.exists_entries (h : s.Storable r) (key : KeyedField → KeyLiteral) :
    ∃ es, List.Forall₂ Entry.Holds es (r.keyed key) := by
  refine RecordSchema.exists_entries (Values.forall_mem_keyed.mpr fun i => ?_)
  obtain ⟨bytes, hb, -⟩ := (h i).2
  exact ⟨bytes, hb⟩

theorem Storable.exists_holds (h : s.Storable r) : ∃ c, s.Holds c r := by
  obtain ⟨es, hes⟩ := h.exists_entries KeyedField.key
  exact ⟨⟨s.keys.fingerprint, es⟩, rfl, hes⟩

/-- A record is read back from its container. -/
theorem ofContainer_of_holds (hs : s.WellFormed) (hr : s.Storable r) (h : s.Holds c r) :
    s.ofContainer c = .ok r := by
  refine Values.decodeWith_eq_ok_iff.mpr fun i => ?_
  obtain ⟨bytes, hget, hb⟩ := h.stores.get? hs i
  rw [Container.decodeValue, hget]
  exact Container.decodeBytes_of_encode hb (hr i).1 _

/-- A record is read back from its bytes. -/
theorem ofBytes_of_holds (hs : s.WellFormed) (hr : s.Storable r) (h : s.Holds c r) :
    s.ofBytes c.toBytes = .ok r := by
  unfold ofBytes
  rw [Container.ofBytes_toBytes (h.stores.fits hs hr)]
  exact ofContainer_of_holds hs hr h

/-- The bytes of a record are those of its container. -/
theorem toBytes_of_holds (hs : s.WellFormed) (h : s.Holds c r) : s.toBytes r = .ok c.toBytes := by
  unfold toBytes
  rw [(toContainer_eq_ok_iff hs).mpr h]
  rfl

end RecordSchema

end KeyedRecords
