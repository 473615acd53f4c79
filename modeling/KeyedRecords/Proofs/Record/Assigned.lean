import KeyedRecords.Proofs.Record.Schema

/-!
# Assigned fields

Results:
* `get_set_self`, `get_set_of_ne`: an assignment replaces the value of one field.
* `set_set_get`: an assignment is undone by the previous value.
* `sized_of_ofBytes`: there is room for a record that was read.
* `ofBytes_of_toBytes`: a record that could be written is read back from its bytes.
-/

namespace KeyedRecords

open Codec

namespace Values

/-! ## One field of a record -/

theorem get_set_self : ∀ {fs : List KeyedField} (r : Values fs) (i : Fin fs.length)
    (v : (fs.get i).type.Value), (r.set i v).get i = v
  | _ :: _, (_, _), ⟨0, _⟩, _ => rfl
  | _ :: _, (_, vs), ⟨i + 1, h⟩, v => get_set_self vs ⟨i, Nat.lt_of_succ_lt_succ h⟩ v

theorem get_set_of_ne : ∀ {fs : List KeyedField} (r : Values fs) {i j : Fin fs.length}
    (v : (fs.get i).type.Value), j ≠ i → (r.set i v).get j = r.get j
  | _ :: _, (_, _), ⟨0, _⟩, ⟨0, _⟩, _, hne => absurd rfl hne
  | _ :: _, (_, _), ⟨0, _⟩, ⟨_ + 1, _⟩, _, _ => rfl
  | _ :: _, (_, _), ⟨_ + 1, _⟩, ⟨0, _⟩, _, _ => rfl
  | _ :: _, (_, vs), ⟨i + 1, hi⟩, ⟨j + 1, hj⟩, v, hne =>
    get_set_of_ne vs (i := ⟨i, Nat.lt_of_succ_lt_succ hi⟩) (j := ⟨j, Nat.lt_of_succ_lt_succ hj⟩) v
      fun h => hne (Fin.ext (congrArg (fun k : Fin _ => k.val + 1) h))

/-- Records with the same values are equal. -/
theorem ext_get : ∀ {fs : List KeyedField} {r r' : Values fs},
    (∀ i : Fin fs.length, r.get i = r'.get i) → r = r'
  | [], _, _, _ => rfl
  | _ :: fs, (_, _), (_, _), h =>
    Prod.ext (h ⟨0, Nat.succ_pos fs.length⟩) (ext_get fun i => h i.succ)

/-- The previous value undoes an assignment. -/
theorem set_set_get {fs : List KeyedField} (r : Values fs) (i : Fin fs.length)
    (v : (fs.get i).type.Value) : (r.set i v).set i (r.get i) = r := by
  refine ext_get fun j => ?_
  by_cases h : j = i
  · subst h
    rw [get_set_self]
  · rw [get_set_of_ne _ _ h, get_set_of_ne _ _ h]

end Values

/-! ## Records that can be in memory -/

/-- There is room for the value, and for its bytes if it can be written. -/
def Codec.FieldType.Sized (t : FieldType) (v : t.Value) : Prop :=
  t.Fits v ∧ ∀ bytes, t.encode v = .ok bytes → bytes.length < memoryLimit

theorem Codec.FieldType.sized_of_encode {t : FieldType} {v : t.Value} {bytes : List UInt8}
    (hfits : t.Fits v) (h : t.encode v = .ok bytes) (hlt : bytes.length < memoryLimit) :
    t.Sized v := by
  refine ⟨hfits, fun bytes' h' => ?_⟩
  rwa [← Except.ok.inj (h.symm.trans h')]

namespace RecordSchema

variable {s : RecordSchema} {c : Container} {r : s.Record} {bytes : List UInt8}

/-- There is room for the record. Its values need not be such that they can be written. -/
def Sized (s : RecordSchema) (r : s.Record) : Prop :=
  ∀ i : Fin s.fields.length, (s.fields.get i).type.Sized (r.get i)

theorem Sized.set (hr : s.Sized r) {i : Fin s.fields.length} {v : (s.fields.get i).type.Value}
    (hv : (s.fields.get i).type.Sized v) : s.Sized (r.set i v) := by
  intro j
  by_cases h : j = i
  · subst h
    rwa [Values.get_set_self]
  · rw [Values.get_set_of_ne _ _ h]
    exact hr j

theorem Storable.sized (h : s.Storable r) : s.Sized r := by
  intro i
  obtain ⟨hfits, bytes, hb, hlt⟩ := h i
  exact FieldType.sized_of_encode hfits hb hlt

/-- A value can be read from a container only if something stands under its key. -/
theorem ofContainer_eq_ok_iff : s.ofContainer c = .ok r ↔ ∀ i : Fin s.fields.length, ∃ bytes,
    c.get? (s.fields.get i).key = some bytes ∧
      Container.decodeBytes (s.fields.get i).key (s.fields.get i).type bytes = .ok (r.get i) := by
  unfold ofContainer
  rw [Values.decodeWith_eq_ok_iff]
  refine forall_congr' fun i => ?_
  unfold Container.decodeValue
  cases c.get? (s.fields.get i).key with
  | none => simp
  | some bytes => simp

/-- What was read from a container can be written. -/
theorem storable_of_ofContainer (hc : ∀ e ∈ c.entries, e.bytes.length < memoryLimit)
    (h : s.ofContainer c = .ok r) : s.Storable r := by
  intro i
  obtain ⟨bytes, hget, hdecode⟩ := ofContainer_eq_ok_iff.mp h i
  obtain ⟨hfits, out, hout, hle⟩ := Container.writable_of_decodeBytes hdecode
  exact ⟨hfits, out, hout, lt_of_le_of_lt hle (hc _ (Container.mem_of_get? hget))⟩

theorem ofBytes_eq_ok_iff : s.ofBytes bytes = .ok r ↔
    ∃ c, Container.ofBytes bytes = .ok c ∧ s.ofContainer c = .ok r :=
  bind_eq_ok_iff

theorem sized_of_ofBytes (h : s.ofBytes bytes = .ok r) : s.Sized r := by
  obtain ⟨c, hc, hr⟩ := ofBytes_eq_ok_iff.mp h
  exact (storable_of_ofContainer (Container.fits_of_ofBytes hc).bytes hr).sized

/-- The bytes of a record are those of its container. -/
theorem toBytes_eq_ok_iff (hs : s.WellFormed) :
    s.toBytes r = .ok bytes ↔ ∃ c, s.Holds c r ∧ c.toBytes = bytes := by
  unfold toBytes
  simp only [map_eq_ok_iff, toContainer_eq_ok_iff hs]

/-- Every value of a record that has a container can be written. -/
theorem Holds.storable (h : s.Holds c r) (hr : s.Sized r) : s.Storable r := by
  intro i
  obtain ⟨bytes, -, hb⟩ := Container.mem_of_holds h.entries (Values.mem_keyed r i)
  exact ⟨(hr i).1, bytes, hb, (hr i).2 bytes hb⟩

/-- A record that could be written is read back from its bytes. -/
theorem ofBytes_of_toBytes (hs : s.WellFormed) (hr : s.Sized r) (h : s.toBytes r = .ok bytes) :
    s.ofBytes bytes = .ok r := by
  obtain ⟨c, hc, rfl⟩ := (toBytes_eq_ok_iff hs).mp h
  exact ofBytes_of_holds hs (hc.storable hr) hc

end RecordSchema

end KeyedRecords
