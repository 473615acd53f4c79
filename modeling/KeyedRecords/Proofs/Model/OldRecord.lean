import KeyedRecords.Proofs.Model.LegacyRecord

/-!
# A whole record under old keys

A record that an earlier version wrote has every value under its old key. Whether a migration
touches it depends on the two fingerprints alone.

Results:
* `migrate_of_fingerprint_ne`: if they differ, the migration and a load give the values back.
* `migrate_of_fingerprint_eq`: if they are equal, nothing is written, and a load gives what
  stands under the current keys.
* `migrate_gives_back_of_kept`: where every field kept its key, the values come back in any case.
-/

namespace KeyedRecords

open Codec

namespace RecordSchema

variable {s : RecordSchema} {c : Container} {r r' : s.Record}

/-! ## Records of an earlier version -/

/-- The container results from storing every value under its old key, in any order. -/
def WrittenOld (s : RecordSchema) (c : Container) (r : s.Record) : Prop :=
  ∃ ws : List KeyedValue, ws.Perm (r.keyed KeyedField.oldKey) ∧
    (Container.forKeys s.oldKeys).encodeAll ws = .ok c

theorem WrittenOld.spec (ho : WellKeyed KeyedField.oldKey s.fields) (h : s.WrittenOld c r) :
    c.schema = s.oldKeys.fingerprint ∧ s.Stores KeyedField.oldKey c r := by
  obtain ⟨ws, hperm, hc⟩ := h
  have hn : ((Container.forKeys s.oldKeys).keys ++ ws.map Prod.fst).Nodup := by
    have hfst := hperm.map Prod.fst
    rw [Values.map_fst_keyed] at hfst
    exact hfst.nodup_iff.mpr ho.nodup
  obtain ⟨es, hes, rfl⟩ := (Container.encodeAll_eq_ok_iff hn).mp hc
  exact ⟨rfl, ws, hperm, hes⟩

/-- Every value is looked up under its old key. -/
theorem Stores.lookedUp (ho : WellKeyed KeyedField.oldKey s.fields) (hr : s.Storable r)
    (h : s.Stores KeyedField.oldKey c r) : s.LookedUp c r := by
  intro i
  obtain ⟨bytes, hget, hb⟩ := h.get? ho i
  have hconsulted : (s.fields.get i).consulted c = (s.fields.get i).oldKey := by
    unfold KeyedField.consulted Container.contains
    rw [hget, Option.isSome_some, if_pos rfl]
  exact ⟨bytes, by rw [hconsulted]; exact hget, hr.reads hb⟩

/-! ## Old keys that are current keys -/

/-- Under the current key of every field stands a value, as an old one, whose bytes are read
    as that of the field. -/
def ReadsOldAs (s : RecordSchema) (r r' : s.Record) : Prop :=
  ∀ i : Fin s.fields.length, ∃ (j : Fin s.fields.length) (bytes : List UInt8),
    (s.fields.get j).oldKey = (s.fields.get i).key ∧ (s.fields.get j).type.encode (r.get j) = .ok bytes ∧
      (s.fields.get i).type.read bytes = .ok (r'.get i, [])

/-- Where every field kept its key, a record under old keys is read as it is. -/
theorem readsOldAs_self (hr : s.Storable r) (h : ∀ f ∈ s.fields, f.oldKey = f.key) :
    s.ReadsOldAs r r := by
  intro i
  obtain ⟨-, bytes, hb, -⟩ := hr i
  exact ⟨i, bytes, h _ (List.getElem_mem _), hb, hr.reads hb⟩

/-- What stands under a key is a value that was stored there. -/
theorem Stores.get?_eq_some_iff {key : KeyedField → KeyLiteral} (hs : WellKeyed key s.fields)
    (h : s.Stores key c r) {k : KeyLiteral} {bytes : List UInt8} : c.get? k = some bytes ↔
      ∃ j : Fin s.fields.length, key (s.fields.get j) = k ∧
        (s.fields.get j).type.encode (r.get j) = .ok bytes := by
  constructor
  · intro hget
    obtain ⟨ws, hperm, hws⟩ := h
    obtain ⟨w, hw, hkey, hv⟩ := Container.exists_of_holds hws (Container.mem_of_get? hget)
    have hfield : ∀ w ∈ r.keyed key, ∃ j : Fin s.fields.length,
        w = (key (s.fields.get j), ⟨(s.fields.get j).type, r.get j⟩) :=
      Values.forall_mem_keyed.mpr fun j => ⟨j, rfl⟩
    obtain ⟨j, rfl⟩ := hfield w (hperm.mem_iff.mp hw)
    exact ⟨j, hkey.symm, hv⟩
  · rintro ⟨j, rfl, hv⟩
    obtain ⟨out, hget, hout⟩ := h.get? hs j
    rw [hget, Except.ok.inj (hout.symm.trans hv)]

theorem ofContainer_old_iff (ho : WellKeyed KeyedField.oldKey s.fields)
    (h : s.Stores KeyedField.oldKey c r) : s.ofContainer c = .ok r' ↔ s.ReadsOldAs r r' := by
  unfold ofContainer ReadsOldAs
  rw [Values.decodeWith_eq_ok_iff]
  refine forall_congr' fun i => ?_
  rw [Container.decodeValue_eq_ok_iff]
  constructor
  · rintro ⟨bytes, hget, hread⟩
    obtain ⟨j, hkey, hb⟩ := (h.get?_eq_some_iff ho).mp hget
    exact ⟨j, bytes, hkey, hb, hread⟩
  · rintro ⟨j, bytes, hkey, hb, hread⟩
    exact ⟨bytes, (h.get?_eq_some_iff ho).mpr ⟨j, hkey, hb⟩, hread⟩

end RecordSchema

/-! ## Migrating it -/

namespace Context

open RecordSchema

variable {σ : Type} {ctx : Context σ} {view : ctx.store.View} {s : RecordSchema} {rt : Runtime σ}
  {c : Container} {r : s.Record}

/-- The gate is open, and the store holds the record of an earlier version. -/
structure HoldsOld (view : ctx.store.View) (s : RecordSchema) (rt : Runtime σ) (c : Container)
    (r : s.Record) : Prop where
  gate : rt.poisoned = false
  readable : view.fault rt.store = none
  stored : view.bytes rt.store = some c.toBytes
  storable : s.Storable r
  written : s.WrittenOld c r

theorem HoldsOld.ofBytes (h : HoldsOld view s rt c r) (ho : WellKeyed KeyedField.oldKey s.fields) :
    Container.ofBytes c.toBytes = .ok c :=
  Container.ofBytes_toBytes ((h.written.spec ho).2.fits ho h.storable)

/-- Under another fingerprint the values are rewritten, and a load gives them back. -/
theorem migrate_of_fingerprint_ne (h : HoldsOld view s rt c r) (hs : s.WellFormed)
    (ho : WellKeyed KeyedField.oldKey s.fields)
    (hne : s.oldKeys.fingerprint ≠ s.keys.fingerprint)
    (haccepts : ∀ out, ctx.answer rt out = .ok ()) (model : String) :
    (ctx.migrate model s rt).1 = .ok .migrated ∧
      (ctx.load s (ctx.migrate model s rt).2).1 = .ok r := by
  obtain ⟨hschema, hstores⟩ := h.written.spec ho
  have hnew : c.isWrittenWith s.keys = false := by
    rw [Container.isWrittenWith, hschema]
    exact beq_false_of_ne hne
  have hold : c.isWrittenWith s.oldKeys = true := by
    rw [Container.isWrittenWith, hschema]
    exact beq_self_eq_true _
  have hlegacy : HoldsLegacy view s rt c.toBytes c :=
    ⟨h.gate, h.readable, h.stored, h.ofBytes ho, by simp [RecordSchema.assess, hnew, hold]⟩
  have hlooked := hstores.lookedUp ho h.storable
  obtain ⟨new, hholds⟩ := hlegacy.exists_holds hlooked
  obtain ⟨hdone, -, hload⟩ := hlegacy.accepted hs model hlooked hholds (haccepts _)
  exact ⟨hdone, hload⟩

/-- Under the same fingerprint the record counts as current, and nothing is written. -/
theorem migrate_of_fingerprint_eq (h : HoldsOld view s rt c r)
    (ho : WellKeyed KeyedField.oldKey s.fields)
    (heq : s.oldKeys.fingerprint = s.keys.fingerprint) (model : String) :
    (ctx.migrate model s rt).1 = .ok .alreadyCurrent ∧
      view.bytes (ctx.migrate model s rt).2.store = some c.toBytes ∧
      ∀ r', (ctx.load s (ctx.migrate model s rt).2).1 = .ok r' ↔ s.ReadsOldAs r r' := by
  obtain ⟨hschema, hstores⟩ := h.written.spec ho
  have hcurrent : s.assess c = some .current := by
    have hnew : c.isWrittenWith s.keys = true := by
      rw [Container.isWrittenWith, hschema, heq]
      exact beq_self_eq_true _
    rw [RecordSchema.assess, if_pos hnew]
  have hread := view.read_record h.readable h.stored
  have hfind : ctx.find rt.store = .ok (some c) := find_eq_some_iff.mpr ⟨_, hread, h.ofBytes ho⟩
  obtain ⟨hdone, hstore, hgate⟩ := (migrate_current model hfind hcurrent).ends rt rfl h.gate
  have hload := (ends_load (s := s) ((view.read_again rt.store).trans hread) _ hstore hgate).1
  refine ⟨hdone, ?_, fun r' => ?_⟩
  · rw [hstore]
    exact (view.bytes_read rt.store).trans h.stored
  · rw [hload, mapError_eq_ok_iff, RecordSchema.ofBytes, h.ofBytes ho]
    exact ofContainer_old_iff ho hstores

/-- Where every field kept its key, the values come back under any fingerprints. -/
theorem migrate_gives_back_of_kept (h : HoldsOld view s rt c r) (hs : s.WellFormed)
    (ho : WellKeyed KeyedField.oldKey s.fields) (hkept : ∀ f ∈ s.fields, f.oldKey = f.key)
    (haccepts : ∀ out, ctx.answer rt out = .ok ()) (model : String) :
    (ctx.load s (ctx.migrate model s rt).2).1 = .ok r := by
  by_cases heq : s.oldKeys.fingerprint = s.keys.fingerprint
  · obtain ⟨-, -, hload⟩ := migrate_of_fingerprint_eq h ho heq model
    exact (hload r).mpr (readsOldAs_self h.storable hkept)
  · exact (migrate_of_fingerprint_ne h hs ho heq haccepts model).2

end Context

end KeyedRecords
