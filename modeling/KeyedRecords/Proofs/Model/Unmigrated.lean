import KeyedRecords.Proofs.Model.PlannedMigration

/-!
# Records that were not migrated

A load looks every field up under its current key only, whatever keys the record was written
with. What it finds under that key in a record of an earlier version is the field that had the
key then.

Results:
* `load_unmigrated`: what a load makes of such a record. Only where the current keys are the old
  ones of other fields can it differ from the record.
* `load_misreads_pair`: a model for which it exchanges two values.
-/

namespace KeyedRecords

open Codec Description

/-! ## Current keys among the old ones -/

namespace RecordSchema

variable {s : RecordSchema} {c : Container} {r r' : s.Record}

/-- Where every field is found, every current key is an old key. -/
theorem ReadsOldAs.keys_perm (hs : s.WellFormed) (h : s.ReadsOldAs r r') :
    (s.fields.map KeyedField.key).Perm (s.fields.map KeyedField.oldKey) := by
  have hsub : s.fields.map KeyedField.key ⊆ s.fields.map KeyedField.oldKey := by
    intro k hk
    obtain ⟨f, hf, rfl⟩ := List.mem_map.mp hk
    obtain ⟨i, rfl⟩ := List.mem_iff_get.mp hf
    obtain ⟨j, -, hkey, -⟩ := h i
    rw [← hkey]
    exact List.mem_map_of_mem (List.get_mem s.fields j)
  refine (List.subperm_of_subset hs.nodup hsub).perm_of_length_le ?_
  rw [List.length_map, List.length_map]

/-- A record whose values can be written can be written under the old keys. -/
theorem Storable.exists_writtenOld (hr : s.Storable r)
    (ho : WellKeyed KeyedField.oldKey s.fields) : ∃ c, s.WrittenOld c r := by
  obtain ⟨es, hes⟩ := hr.exists_entries KeyedField.oldKey
  have hn : ((Container.forKeys s.oldKeys).keys ++
      (r.keyed KeyedField.oldKey).map Prod.fst).Nodup := by
    rw [Values.map_fst_keyed]
    exact ho.nodup
  exact ⟨_, _, .refl _, (Container.encodeAll_eq_ok_iff hn).mpr ⟨es, hes, rfl⟩⟩

end RecordSchema

namespace Context

open RecordSchema

variable {σ : Type} {ctx : Context σ} {view : ctx.store.View} {rt : Runtime σ} {c : Container}

/-! ## Loading the record of an earlier version -/

section Load

variable {s : RecordSchema} {r : s.Record}

/-- A load decodes the bytes of the record and does nothing else that could fail. -/
theorem load_of_holdsOld (h : HoldsOld view s rt c r)
    (ho : WellKeyed KeyedField.oldKey s.fields) :
    (ctx.load s rt).1 = (s.ofContainer c).mapError Failure.ofStop := by
  have hread := view.read_record h.readable h.stored
  have hloaded : (ctx.load s rt).1 = (s.ofBytes c.toBytes).mapError Failure.ofStop :=
    (ends_load (s := s) hread rt rfl h.gate).1
  rw [hloaded, ofBytes, h.ofBytes ho]
  rfl

/-- What is loaded has in every field the value that stands under its current key. -/
theorem load_old_iff (h : HoldsOld view s rt c r) (ho : WellKeyed KeyedField.oldKey s.fields)
    (r' : s.Record) : (ctx.load s rt).1 = .ok r' ↔ s.ReadsOldAs r r' := by
  rw [load_of_holdsOld h ho, mapError_eq_ok_iff]
  exact ofContainer_old_iff ho (h.written.spec ho).2

end Load

section Planned

variable {name : Option Source.Ident} {item : Source.Item} {found : Found}
  {before : List Diagnostic} {p : ModelPlan} {old : KeySet} {types : PlanTypes}

/-- A load without a migration gives the record of an earlier version back if every field kept
    its key, and nothing if not all keys are old ones. Where the current keys are the old ones in
    another order, every field gets what the field that had its key before is read as. -/
theorem load_unmigrated (hfound : (Description.find name item).1 = some found)
    (hplan : (ModelPlan.build found.model before).1 = some p) (hold : p.oldKeys = some old)
    (ha : (p.recordSchema types).Addressable)
    {r : (p.recordSchema types).Record} (h : HoldsOld view (p.recordSchema types) rt c r) :
    let s := p.recordSchema types
    let loaded := (ctx.load s rt).1
    (s.fields.map KeyedField.key = s.fields.map KeyedField.oldKey → loaded = .ok r) ∧
    (¬ (s.fields.map KeyedField.key).Perm (s.fields.map KeyedField.oldKey) →
      ∃ stop, loaded = .error (.ofStop stop)) ∧
    ∀ r', loaded = .ok r' ↔ s.ReadsOldAs r r' := by
  intro s loaded
  obtain ⟨hs, ho, -⟩ := wellKeyed_of_plan hfound hplan hold ha
  have hload : ∀ r', loaded = .ok r' ↔ s.ReadsOldAs r r' := load_old_iff h ho
  refine ⟨fun hkept => ?_, fun hnot => ?_, hload⟩
  · have hkeys : ∀ f ∈ s.fields, f.oldKey = f.key := fun f hf =>
      (List.map_inj_left.mp hkept f hf).symm
    exact (hload r).mpr (readsOldAs_self h.storable hkeys)
  · have hdecoded : loaded = (s.ofContainer c).mapError Failure.ofStop := load_of_holdsOld h ho
    cases hc : s.ofContainer c with
    | ok r' =>
      -- Had every field been found, the current keys would be the old ones in some order.
      rw [hc] at hdecoded
      exact absurd (((hload r').mp hdecoded).keys_perm hs) hnot
    | error stop =>
      rw [hc] at hdecoded
      exact ⟨stop, hdecoded⟩

end Planned

/-! ## Pairs with exchanged and with new keys -/

/-- A pair is accepted whose fields have each the old key of the other, and whose fingerprints
    differ. Its old record is loaded without a migration, with the two values exchanged. -/
theorem load_misreads_pair :
    let s := exchangedSchema otherOrder
    (∃ found p keys,
      (Description.find none (exchangedPair [("First", "b"), ("Second", "a")])).1 = some found ∧
      (ModelPlan.build found.model []).1 = some p ∧ p.oldKeys = some keys ∧
      keys.schema = s.oldKeys ∧ p.recordSchema textTypes = s) ∧
    s.oldKeys.fingerprint ≠ s.keys.fingerprint ∧
    HoldsOld memoryRecord s (exchangedStored otherOrder) (exchangedContainer otherOrder)
      (oneTwo otherOrder) ∧
    (memoryContext.load s (exchangedStored otherOrder)).1 = .ok (twoOne otherOrder) ∧
    twoOne otherOrder ≠ oneTwo otherOrder := by
  intro s
  have hload := load_old_iff (holdsOld_exchanged otherOrder) wellKeyed_exchangedFields
  refine ⟨exists_exchangedPlan (by decide +kernel), by decide +kernel, holdsOld_exchanged _,
    (hload _).mpr (readsOldAs_exchanged _), fun h => ?_⟩
  have hfirst : ("two" : String) = "one" := congrArg Prod.fst h
  exact absurd hfirst (by decide)

/-- Two texts under `a` and `b` that were under `x` and `y`. -/
def renamedSchema : RecordSchema :=
  ⟨⟨.text, [⟨"First", .text "a"⟩, ⟨"Second", .text "b"⟩]⟩,
    ⟨.text, [⟨"Second", .text "y"⟩, ⟨"First", .text "x"⟩]⟩,
    [⟨"first", .string, .text "a", .text "x"⟩, ⟨"second", .string, .text "b", .text "y"⟩]⟩

theorem addressable_renamedSchema : renamedSchema.Addressable where
  count := by decide
  fits := by decide

theorem wellKeyed_renamedSchema :
    RecordSchema.WellKeyed KeyedField.oldKey renamedSchema.fields where
  nodup := by decide
  count := by decide
  fits f hf := (addressable_renamedSchema.fits f hf).2

theorem storable_renamedSchema : renamedSchema.Storable ("one", "two", ()) := by
  have hone : FieldType.Fits .string "one" := (by decide : 3 < memoryLimit)
  have htwo : FieldType.Fits .string "two" := (by decide : 3 < memoryLimit)
  rintro ⟨i, hi⟩
  match i, hi with
  | 0, _ => exact ⟨hone, _, encode_one, by decide⟩
  | 1, _ => exact ⟨htwo, _, encode_two, by decide⟩

/-- A record can be in memory as an earlier version wrote it. -/
theorem exists_holdsOld {s : RecordSchema} {r : s.Record} (hr : s.Storable r)
    (ho : WellKeyed KeyedField.oldKey s.fields) : ∃ c rt, HoldsOld memoryRecord s rt c r := by
  obtain ⟨c, hc⟩ := hr.exists_writtenOld ho
  exact ⟨c, ⟨some c.toBytes, false, .withHistory 0, []⟩, rfl, rfl, rfl, hr, hc⟩

/-- The old record of a pair with new keys is not loaded. -/
theorem load_unmigrated_renamedPair : ∃ found p keys,
    (Description.find none
      (pairItem [("First", "a"), ("Second", "b")] [("Second", "y"), ("First", "x")])).1 =
        some found ∧
    (ModelPlan.build found.model []).1 = some p ∧ p.oldKeys = some keys ∧
    (p.recordSchema textTypes).Addressable ∧
    ∃ r c rt, HoldsOld memoryRecord (p.recordSchema textTypes) rt c r ∧
      ∃ stop, (memoryContext.load (p.recordSchema textTypes) rt).1 = .error (.ofStop stop) := by
  have haccepted : accepted?
      (pairItem [("First", "a"), ("Second", "b")] [("Second", "y"), ("First", "x")])
      (fun _ p => (p.oldKeys.isSome, p.recordSchema textTypes)) = some (true, renamedSchema) := by
    decide +kernel
  obtain ⟨found, p, hfound, hplan, h⟩ := exists_of_accepted? haccepted
  obtain ⟨hsome, hs⟩ := Prod.mk.inj h
  obtain ⟨keys, hold⟩ := Option.isSome_iff_exists.mp hsome
  have ha : (p.recordSchema textTypes).Addressable := by
    rw [hs]
    exact addressable_renamedSchema
  have hstored : ∃ r c rt, HoldsOld memoryRecord (p.recordSchema textTypes) rt c r := by
    rw [hs]
    exact ⟨_, exists_holdsOld storable_renamedSchema wellKeyed_renamedSchema⟩
  obtain ⟨r, c, rt, hholds⟩ := hstored
  obtain ⟨-, hfails, -⟩ := load_unmigrated hfound hplan hold ha hholds
  have hnew : ¬ ((p.recordSchema textTypes).fields.map KeyedField.key).Perm
      ((p.recordSchema textTypes).fields.map KeyedField.oldKey) := by
    rw [hs]
    decide
  exact ⟨found, p, keys, hfound, hplan, hold, ha, r, c, rt, hholds, hfails hnew⟩

end Context

end KeyedRecords
