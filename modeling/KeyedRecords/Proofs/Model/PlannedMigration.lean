import KeyedRecords.Model.Planned
import KeyedRecords.Proofs.Description.Plan
import KeyedRecords.Proofs.Model.OldRecord

/-!
# Migrations of planned models

The keys of a plan are bound to fields, and a migration reads each field under the literal that
its old case has. The fingerprint sees the literals in order and not the fields that they are
bound to.

Results:
* `migrate_gives_back_iff`: when a migration followed by a load gives the values of an earlier
  version back.
* `migrate_swaps_pair`: a model for which it exchanges two values.
-/

namespace KeyedRecords

open Codec Description

/-! ## Fingerprints -/

/-- The names of cases take no part in the fingerprint. -/
theorem KeySchema.fingerprint_congr {k k' : KeySchema} (hkind : k.kind = k'.kind)
    (hliterals : k.literals = k'.literals) : k.fingerprint = k'.fingerprint := by
  unfold fingerprint
  rw [hkind, hliterals]

/-! ## The record schema of a plan -/

namespace RecordSchema

/-- Memory has room for an entry of each field and for all their keys. -/
structure Addressable (s : RecordSchema) : Prop where
  count : s.fields.length * Container.entrySize < memoryLimit
  fits : ∀ f ∈ s.fields, f.key.Fits ∧ f.oldKey.Fits

end RecordSchema

namespace Description.ModelPlan

variable {p : ModelPlan} {ds : List Declaration} {old : KeySet} (types : PlanTypes)

theorem keysBefore_eq (hold : p.oldKeys = some old) : p.keysBefore = old := by
  unfold keysBefore
  rw [hold, Option.getD_some]

theorem map_key_fields (h : p.Follows ds) :
    (p.recordSchema types).fields.map KeyedField.key = p.keys.bindings.map KeyBinding.literal := by
  rw [← h.keys, List.map_map]
  exact List.map_map

/-- The old key of a field has the literal that is bound to the field. -/
theorem map_oldKey_fields (h : p.Follows ds) (hold : p.oldKeys = some old)
    (hn : (p.persisted.map PersistedField.name).Nodup) :
    (p.recordSchema types).fields.map KeyedField.oldKey = old.bindings.map KeyBinding.literal := by
  have hbinds : old.Binds (p.persisted.map PersistedField.name) := h.binds old (by simp [hold])
  have hfound : p.persisted.map (fun f => old.binding? f.name) = old.bindings.map some := by
    rw [← hbinds.map_binding? hn, List.map_map]
    rfl
  have hliteral : ∀ f ∈ p.persisted,
      some (p.literalBefore f) = (old.binding? f.name).map KeyBinding.literal := by
    intro f hf
    obtain ⟨b, -, -, hb⟩ := hbinds.exists_binding hn (List.mem_map_of_mem hf)
    rw [literalBefore, keysBefore_eq hold, hb, Option.map_some, Option.getD_some]
  refine List.map_injective_iff.mpr (Option.some_injective KeyLiteral) ?_
  calc ((p.recordSchema types).fields.map KeyedField.oldKey).map some
      = p.persisted.map (fun f => some (p.literalBefore f)) := by simp [recordSchema, keyedField]
    _ = p.persisted.map (fun f => (old.binding? f.name).map KeyBinding.literal) :=
        List.map_congr_left hliteral
    _ = (p.persisted.map fun f => old.binding? f.name).map (Option.map KeyBinding.literal) := by
        rw [List.map_map]; rfl
    _ = (old.bindings.map KeyBinding.literal).map some := by
        rw [hfound, List.map_map, List.map_map]; rfl

end Description.ModelPlan

/-! ## Migrating the record of an earlier version -/

namespace Context

variable {σ : Type} {ctx : Context σ} {view : ctx.store.View} {rt : Runtime σ} {c : Container}

section Planned

variable {name : Option Source.Ident} {item : Source.Item} {found : Found}
  {before : List Diagnostic} {p : ModelPlan} {old : KeySet} {types : PlanTypes}

/-- In both key sets of an accepted description with migration keys, the fields have distinct
    keys. -/
theorem wellKeyed_of_plan (hfound : (Description.find name item).1 = some found)
    (hplan : (ModelPlan.build found.model before).1 = some p) (hold : p.oldKeys = some old)
    (ha : (p.recordSchema types).Addressable) : (p.recordSchema types).WellFormed ∧
      RecordSchema.WellKeyed KeyedField.oldKey (p.recordSchema types).fields ∧
      old.raw = p.keys.raw := by
  have hlabels := nodup_of_oldKeys hplan hold
  have hfollows := follows_of_build hplan (typed_of_find hfound) hlabels
  have hnames : (p.persisted.map PersistedField.name).Nodup := by
    rw [hfollows.map_name]
    exact KeySet.nodup_of_labels hlabels
  refine ⟨⟨?_, ha.count, fun f hf => (ha.fits f hf).1⟩,
    ⟨?_, ha.count, fun f hf => (ha.fits f hf).2⟩, hfollows.raw old hold⟩
  · rw [ModelPlan.map_key_fields types hfollows]
    exact (hfollows.binds p.keys List.mem_cons_self).literals
  · rw [ModelPlan.map_oldKey_fields types hfollows hold hnames]
    exact (hfollows.binds old (by simp [hold])).literals

/-- A migration and a load give the values of an earlier version back exactly when the two key
    sets have different literals or the same ones in another order, or else, when what stands
    under the current key of every field is read as the value of the field. Without a difference
    nothing is rewritten. -/
theorem migrate_gives_back_iff (hfound : (Description.find name item).1 = some found)
    (hplan : (ModelPlan.build found.model before).1 = some p) (hold : p.oldKeys = some old)
    (ha : (p.recordSchema types).Addressable)
    (hhash : old.schema.fingerprint = p.keys.schema.fingerprint →
      old.schema.literals = p.keys.schema.literals)
    {r : (p.recordSchema types).Record} (h : HoldsOld view (p.recordSchema types) rt c r)
    (haccepts : ∀ out, ctx.answer rt out = .ok ()) (model : String) :
    let s := p.recordSchema types
    let done := ctx.migrate model s rt
    ((ctx.load s done.2).1 = .ok r ↔
      old.schema.literals ≠ p.keys.schema.literals ∨ s.ReadsOldAs r r) ∧
    (old.schema.literals ≠ p.keys.schema.literals → done.1 = .ok .migrated) ∧
    (old.schema.literals = p.keys.schema.literals →
      done.1 = .ok .alreadyCurrent ∧ view.bytes done.2.store = some c.toBytes) := by
  intro s done
  obtain ⟨hs, ho, hraw⟩ := wellKeyed_of_plan hfound hplan hold ha
  have hkeys : s.oldKeys = old.schema := congrArg KeySet.schema (ModelPlan.keysBefore_eq hold)
  by_cases hsame : old.schema.literals = p.keys.schema.literals
  · have hfp : s.oldKeys.fingerprint = s.keys.fingerprint := by
      rw [hkeys]
      exact KeySchema.fingerprint_congr (congrArg RawType.kind hraw) hsame
    obtain ⟨hdone, hbytes, hload⟩ := migrate_of_fingerprint_eq h ho hfp model
    refine ⟨(hload r).trans ⟨.inr, fun hor => ?_⟩, fun hne => absurd hsame hne,
      fun _ => ⟨hdone, hbytes⟩⟩
    exact hor.resolve_left fun hne => hne hsame
  · have hfp : s.oldKeys.fingerprint ≠ s.keys.fingerprint := by
      rw [hkeys]
      exact fun heq => hsame (hhash heq)
    obtain ⟨hdone, hload⟩ := migrate_of_fingerprint_ne h hs ho hfp haccepts model
    exact ⟨iff_of_true hload (.inl hsame), fun _ => hdone, fun heq => absurd heq hsame⟩

end Planned

/-! ## Two pairs that exchange their keys -/

/-- Every field of a plan is a text. -/
def textTypes : PlanTypes := ⟨fun _ => .string, fun _ => .string⟩

/-- Two texts that have exchanged the literals `a` and `b`. -/
def exchangedFields : List KeyedField :=
  [⟨"first", .string, .text "a", .text "b"⟩, ⟨"second", .string, .text "b", .text "a"⟩]

/-- The records of these texts, where the old keys have the given cases. -/
def exchangedSchema (old : List KeyCase) : RecordSchema :=
  ⟨⟨.text, [⟨"First", .text "a"⟩, ⟨"Second", .text "b"⟩]⟩, ⟨.text, old⟩, exchangedFields⟩

theorem addressable_exchangedSchema (old : List KeyCase) : (exchangedSchema old).Addressable where
  count := (by decide : exchangedFields.length * Container.entrySize < memoryLimit)
  fits := by
    simp only [exchangedSchema, exchangedFields, List.forall_mem_cons, KeyLiteral.Fits, TextFits]
    exact ⟨by decide, by decide, by simp⟩

theorem wellKeyed_exchangedFields : RecordSchema.WellKeyed KeyedField.oldKey exchangedFields where
  nodup := by decide
  count := by decide
  fits f hf := ((addressable_exchangedSchema []).fits f hf).2

/-- The record of two texts that an earlier version wrote. -/
def exchangedContainer (old : List KeyCase) : Container :=
  ⟨(exchangedSchema old).oldKeys.fingerprint,
    [⟨.text "b", [3, 111, 110, 101]⟩, ⟨.text "a", [3, 116, 119, 111]⟩]⟩

/-- The state in which that record is stored. -/
def exchangedStored (old : List KeyCase) : Runtime (Option (List UInt8)) :=
  ⟨some (exchangedContainer old).toBytes, false, .withHistory 0, []⟩

/-- The two texts. -/
def oneTwo (old : List KeyCase) : (exchangedSchema old).Record := ("one", "two", ())

/-- The two texts exchanged. -/
def twoOne (old : List KeyCase) : (exchangedSchema old).Record := ("two", "one", ())

theorem encode_one : FieldType.encode .string "one" = .ok [3, 111, 110, 101] := by rfl

theorem encode_two : FieldType.encode .string "two" = .ok [3, 116, 119, 111] := by rfl

theorem holdsOld_exchanged (old : List KeyCase) : HoldsOld memoryRecord (exchangedSchema old)
    (exchangedStored old) (exchangedContainer old) (oneTwo old) where
  gate := rfl
  readable := rfl
  stored := rfl
  storable := by
    have hfits : FieldType.Fits .string "one" ∧ FieldType.Fits .string "two" :=
      ⟨(by decide : 3 < memoryLimit), (by decide : 3 < memoryLimit)⟩
    rintro ⟨i, hi⟩
    match i, hi with
    | 0, _ => exact ⟨hfits.1, _, encode_one, by decide⟩
    | 1, _ => exact ⟨hfits.2, _, encode_two, by decide⟩
  written := by
    refine ⟨(oneTwo old).keyed KeyedField.oldKey, .refl _, ?_⟩
    refine (Container.encodeAll_eq_ok_iff ?_).mpr
      ⟨_, .cons ⟨rfl, encode_one⟩ (.cons ⟨rfl, encode_two⟩ .nil), rfl⟩
    rw [Values.map_fst_keyed]
    exact wellKeyed_exchangedFields.nodup

/-- The two texts are read back exchanged under their current keys. -/
theorem readsOldAs_exchanged (old : List KeyCase) :
    (exchangedSchema old).ReadsOldAs (oneTwo old) (twoOne old) := by
  have hone := FieldType.reads_encode encode_one (by decide : 3 < memoryLimit) []
  have htwo := FieldType.reads_encode encode_two (by decide : 3 < memoryLimit) []
  rintro ⟨i, hi⟩
  match i, hi with
  | 0, _ => exact ⟨⟨1, (by decide : 1 < exchangedFields.length)⟩, _, rfl, encode_two, htwo⟩
  | 1, _ => exact ⟨⟨0, (by decide : 0 < exchangedFields.length)⟩, _, rfl, encode_one, hone⟩

/-- A pair whose old cases exchange the literals of the fields. The order of the old cases is
    given. -/
def exchangedPair (old : List (String × String)) : Source.Item :=
  pairItem [("First", "a"), ("Second", "b")] old

/-- The plan of the pair is accepted, and its records are stored as the schema says. -/
theorem exists_exchangedPlan {old : List KeyCase} {item : Source.Item}
    (h : accepted? item (fun _ p => (p.oldKeys.map KeySet.schema, p.recordSchema textTypes)) =
      some (some (exchangedSchema old).oldKeys, exchangedSchema old)) :
    ∃ found p keys, (Description.find none item).1 = some found ∧
      (ModelPlan.build found.model []).1 = some p ∧ p.oldKeys = some keys ∧
      keys.schema = (exchangedSchema old).oldKeys ∧
      p.recordSchema textTypes = exchangedSchema old := by
  obtain ⟨found, p, hfound, hplan, h⟩ := exists_of_accepted? h
  simp only [Prod.mk.injEq] at h
  obtain ⟨hold, hschema⟩ := h
  obtain ⟨keys, hkeys, hkeysSchema⟩ := Option.map_eq_some_iff.mp hold
  exact ⟨found, p, keys, hfound, hplan, hkeys, hkeysSchema, hschema⟩

/-- The old cases in the order of their literals. -/
def sameOrder : List KeyCase := [⟨"Second", .text "a"⟩, ⟨"First", .text "b"⟩]

/-- The old cases in the order of the fields. -/
def otherOrder : List KeyCase := [⟨"First", .text "b"⟩, ⟨"Second", .text "a"⟩]

/-- A pair is accepted whose old literals are those of its keys, in the same order, but bound to
    the other fields. Its record counts as current, and a load exchanges the two values. -/
theorem migrate_swaps_pair :
    let s := exchangedSchema sameOrder
    let done := memoryContext.migrate "Pair" s (exchangedStored sameOrder)
    (∃ found p keys,
      (Description.find none (exchangedPair [("Second", "a"), ("First", "b")])).1 = some found ∧
      (ModelPlan.build found.model []).1 = some p ∧ p.oldKeys = some keys ∧
      keys.schema = s.oldKeys ∧ p.recordSchema textTypes = s) ∧
    s.oldKeys.literals = s.keys.literals ∧
    HoldsOld memoryRecord s (exchangedStored sameOrder) (exchangedContainer sameOrder)
      (oneTwo sameOrder) ∧
    done.1 = .ok .alreadyCurrent ∧ (memoryContext.load s done.2).1 = .ok (twoOne sameOrder) ∧
    twoOne sameOrder ≠ oneTwo sameOrder := by
  intro s done
  have hliterals : s.oldKeys.literals = s.keys.literals := by decide
  obtain ⟨hdone, -, hload⟩ := migrate_of_fingerprint_eq (holdsOld_exchanged sameOrder)
    wellKeyed_exchangedFields (KeySchema.fingerprint_congr rfl hliterals) "Pair"
  refine ⟨exists_exchangedPlan (by decide +kernel), hliterals, holdsOld_exchanged _,
    hdone, (hload _).mpr (readsOldAs_exchanged _), fun h => ?_⟩
  have hfirst : ("two" : String) = "one" := congrArg Prod.fst h
  exact absurd hfirst (by decide)

/-- With the old cases in the order of the fields the same pair is migrated, and a load gives
    the two values back. -/
theorem migrate_gives_back_pair : ∃ found p keys,
    (Description.find none (exchangedPair [("First", "b"), ("Second", "a")])).1 = some found ∧
    (ModelPlan.build found.model []).1 = some p ∧ p.oldKeys = some keys ∧
    (p.recordSchema textTypes).Addressable ∧
    keys.schema.fingerprint ≠ p.keys.schema.fingerprint ∧
    ∃ r c rt, HoldsOld memoryRecord (p.recordSchema textTypes) rt c r ∧
      (∀ out, memoryContext.answer rt out = .ok ()) ∧
      (memoryContext.migrate "Pair" (p.recordSchema textTypes) rt).1 = .ok .migrated ∧
      (memoryContext.load (p.recordSchema textTypes)
        (memoryContext.migrate "Pair" (p.recordSchema textTypes) rt).2).1 = .ok r := by
  have haccepted : accepted? (exchangedPair [("First", "b"), ("Second", "a")])
      (fun _ p => (p.oldKeys.map KeySet.schema, p.recordSchema textTypes)) =
        some (some (exchangedSchema otherOrder).oldKeys, exchangedSchema otherOrder) := by
    decide +kernel
  obtain ⟨found, p, keys, hfound, hplan, hold, hkeys, hs⟩ := exists_exchangedPlan haccepted
  have ha : (p.recordSchema textTypes).Addressable := by
    rw [hs]
    exact addressable_exchangedSchema otherOrder
  have hnew : p.keys.schema = (exchangedSchema otherOrder).keys := congrArg RecordSchema.keys hs
  have hhash : (exchangedSchema otherOrder).oldKeys.fingerprint ≠
      (exchangedSchema otherOrder).keys.fingerprint := by
    decide +kernel
  have hne : keys.schema.fingerprint ≠ p.keys.schema.fingerprint := by
    rw [hkeys, hnew]
    exact hhash
  have hstored : ∃ r c rt, HoldsOld memoryRecord (p.recordSchema textTypes) rt c r := by
    rw [hs]
    exact ⟨_, _, _, holdsOld_exchanged otherOrder⟩
  obtain ⟨r, c, rt, h⟩ := hstored
  have haccepts := memoryContext_answer rt
  obtain ⟨hiff, hmigrated, -⟩ := migrate_gives_back_iff hfound hplan hold ha
    (fun heq => absurd heq hne) h haccepts "Pair"
  have hliterals : keys.schema.literals ≠ p.keys.schema.literals := by
    rw [hkeys, hnew]
    decide
  exact ⟨found, p, keys, hfound, hplan, hold, ha, hne, r, c, rt, h, haccepts, hmigrated hliterals,
    hiff.mpr (.inl hliterals)⟩

end Context

end KeyedRecords
