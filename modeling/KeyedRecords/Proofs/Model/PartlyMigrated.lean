import KeyedRecords.Proofs.Generated.Members
import KeyedRecords.Proofs.Model.PlannedMigration

/-!
# Records that are migrated in part

Some fields of such a record stand under their new keys and the others still under their old
ones. A migration looks under the old key of a field first. For a field that was rewritten, the
value of another one may stand there, if the new key of the other is the old key of the field.

Results:
* `lookedUp_iff_readsPartly`: what every field of such a record is read from.
* `readsPartly_self_iff`: when every field is read as what it is.
* `migrate_completes_iff`: when a migration completes such a record, and what it makes of it
  otherwise.
* `migrate_repeats_text`: a model for which it loses a value.
-/

namespace KeyedRecords

open Codec Description

/-- The key that a field stands under in a record some of whose fields are rewritten. -/
def KeyedField.standing (rewritten : KeyedField → Bool) (f : KeyedField) : KeyLiteral :=
  if rewritten f then f.key else f.oldKey

namespace RecordSchema

variable {s : RecordSchema} {c : Container} {r r' : s.Record} {rewritten : KeyedField → Bool}

/-! ## Which field is read -/

/-- Distinct keys tell the fields apart. -/
theorem WellKeyed.eq_of_key_eq {key : KeyedField → KeyLiteral} (hs : WellKeyed key s.fields)
    {i j : Fin s.fields.length} (h : key (s.fields.get i) = key (s.fields.get j)) : i = j := by
  have hfields : s.fields.get i = s.fields.get j :=
    List.inj_on_of_nodup_map hs.nodup (List.get_mem _ _) (List.get_mem _ _) h
  exact List.nodup_iff_injective_get.mp hs.nodup.of_map hfields

/-- The value of the field `j` stands where that of the field `i` is looked up: under the old
    key of `i`, or under its new one if nothing stands under the old. -/
def AnswersFor (s : RecordSchema) (rewritten : KeyedField → Bool) (i j : Fin s.fields.length) :
    Prop :=
  (s.fields.get j).standing rewritten = (s.fields.get i).oldKey ∨
    j = i ∧ ∀ k : Fin s.fields.length,
      (s.fields.get k).standing rewritten ≠ (s.fields.get i).oldKey

/-- Every field is read from the bytes of the field that answers for it. -/
def ReadsPartly (s : RecordSchema) (rewritten : KeyedField → Bool) (r r' : s.Record) : Prop :=
  ∀ i : Fin s.fields.length, ∃ (j : Fin s.fields.length) (bytes : List UInt8),
    s.AnswersFor rewritten i j ∧ (s.fields.get j).type.encode (r.get j) = .ok bytes ∧
      (s.fields.get i).type.read bytes = .ok (r'.get i, [])

/-- Where the new key of a rewritten field is the old key of a rewritten field, the bytes of the
    first are read as the value of the second. -/
def Undisturbed (s : RecordSchema) (rewritten : KeyedField → Bool) (r : s.Record) : Prop :=
  ∀ i j : Fin s.fields.length, rewritten (s.fields.get i) → rewritten (s.fields.get j) →
    (s.fields.get j).key = (s.fields.get i).oldKey →
    ∃ bytes, (s.fields.get j).type.encode (r.get j) = .ok bytes ∧
      (s.fields.get i).type.read bytes = .ok (r.get i, [])

/-- What is looked up in such a record. -/
theorem lookedUp_iff_readsPartly (hs : WellKeyed (KeyedField.standing rewritten) s.fields)
    (h : s.Stores (KeyedField.standing rewritten) c r) :
    s.LookedUp c r' ↔ s.ReadsPartly rewritten r r' := by
  refine forall_congr' fun i => ?_
  -- A field that nothing answers for under its old key was rewritten.
  have hmoved : (∀ k : Fin s.fields.length,
      (s.fields.get k).standing rewritten ≠ (s.fields.get i).oldKey) →
      (s.fields.get i).standing rewritten = (s.fields.get i).key := by
    intro hfree
    have hne := hfree i
    unfold KeyedField.standing at hne ⊢
    split_ifs at hne ⊢ with hi
    · rfl
    · exact absurd rfl hne
  cases hold : c.get? (s.fields.get i).oldKey with
  | some out =>
    have hconsulted : (s.fields.get i).consulted c = (s.fields.get i).oldKey := by
      rw [KeyedField.consulted, Container.contains, hold, Option.isSome_some, if_pos rfl]
    obtain ⟨k, hk, -⟩ := (h.get?_eq_some_iff hs).mp hold
    unfold KeyedField.StoredAs
    rw [hconsulted]
    constructor
    · rintro ⟨bytes, hget, hread⟩
      obtain ⟨j, hj, hb⟩ := (h.get?_eq_some_iff hs).mp hget
      exact ⟨j, bytes, .inl hj, hb, hread⟩
    · rintro ⟨j, bytes, hj | ⟨-, hfree⟩, hb, hread⟩
      · exact ⟨bytes, (h.get?_eq_some_iff hs).mpr ⟨j, hj, hb⟩, hread⟩
      · exact absurd hk (hfree k)
  | none =>
    have hconsulted : (s.fields.get i).consulted c = (s.fields.get i).key := by
      rw [KeyedField.consulted, Container.contains, hold]
      rfl
    have hfree : ∀ k : Fin s.fields.length,
        (s.fields.get k).standing rewritten ≠ (s.fields.get i).oldKey := by
      intro k hk
      obtain ⟨bytes, hget, -⟩ := h.get? hs k
      rw [hk, hold] at hget
      cases hget
    unfold KeyedField.StoredAs
    rw [hconsulted, ← hmoved hfree]
    constructor
    · rintro ⟨bytes, hget, hread⟩
      obtain ⟨j, hj, hb⟩ := (h.get?_eq_some_iff hs).mp hget
      obtain rfl := hs.eq_of_key_eq hj
      exact ⟨j, bytes, .inr ⟨rfl, hfree⟩, hb, hread⟩
    · rintro ⟨j, bytes, hj | ⟨rfl, -⟩, hb, hread⟩
      · exact absurd hj (hfree j)
      · exact ⟨bytes, (h.get?_eq_some_iff hs).mpr ⟨j, rfl, hb⟩, hread⟩

/-- Every field is read as what it is exactly if no rewritten field disturbs another. -/
theorem readsPartly_self_iff (hs : WellKeyed (KeyedField.standing rewritten) s.fields)
    (ho : WellKeyed KeyedField.oldKey s.fields) (hr : s.Storable r) :
    s.ReadsPartly rewritten r r ↔ s.Undisturbed rewritten r := by
  constructor
  · intro h i j hi hj hkey
    have hstanding : (s.fields.get j).standing rewritten = (s.fields.get i).oldKey := by
      rw [KeyedField.standing, if_pos hj]
      exact hkey
    obtain ⟨j', bytes, hj' | ⟨-, hfree⟩, hb, hread⟩ := h i
    · obtain rfl := hs.eq_of_key_eq (hj'.trans hstanding.symm)
      exact ⟨bytes, hb, hread⟩
    · exact absurd hstanding (hfree j)
  · intro h i
    obtain ⟨-, bytes, hb, -⟩ := hr i
    have hread := hr.reads hb
    by_cases hfree : ∀ k : Fin s.fields.length,
        (s.fields.get k).standing rewritten ≠ (s.fields.get i).oldKey
    · exact ⟨i, bytes, .inr ⟨rfl, hfree⟩, hb, hread⟩
    · push Not at hfree
      obtain ⟨j, hj⟩ := hfree
      by_cases hij : j = i
      · subst hij
        exact ⟨j, bytes, .inl hj, hb, hread⟩
      · -- Two fields that are in each other's way were both rewritten.
        have hi : rewritten (s.fields.get i) := by
          by_contra hi
          apply hij
          apply hs.eq_of_key_eq
          rw [hj, KeyedField.standing, if_neg hi]
        have hj' : rewritten (s.fields.get j) := by
          by_contra hj'
          rw [KeyedField.standing, if_neg hj'] at hj
          exact hij (ho.eq_of_key_eq hj)
        have hkey : (s.fields.get j).key = (s.fields.get i).oldKey := by
          rwa [KeyedField.standing, if_pos hj'] at hj
        obtain ⟨out, hout, houtread⟩ := h i j hi hj' hkey
        exact ⟨j, out, .inl hj, hout, houtread⟩

end RecordSchema

/-! ## Migrating it -/

namespace Context

open RecordSchema

variable {σ : Type} {ctx : Context σ} {view : ctx.store.View} {rt : Runtime σ} {c : Container}
  {rewritten : KeyedField → Bool}

section Migrate

variable {s : RecordSchema} {r r' : s.Record} {bytes : List UInt8}

/-- The gate is open, and the store holds a record some of whose fields are rewritten. No two
    fields stand under one key. -/
structure HoldsPartly (view : ctx.store.View) (s : RecordSchema) (rewritten : KeyedField → Bool)
    (rt : Runtime σ) (c : Container) (r : s.Record) : Prop where
  gate : rt.poisoned = false
  readable : view.fault rt.store = none
  stored : view.bytes rt.store = some c.toBytes
  storable : s.Storable r
  distinct : (s.fields.map (KeyedField.standing rewritten)).Nodup
  stores : s.Stores (KeyedField.standing rewritten) c r

theorem HoldsPartly.wellKeyed (h : HoldsPartly view s rewritten rt c r) (ha : s.Addressable) :
    WellKeyed (KeyedField.standing rewritten) s.fields where
  nodup := h.distinct
  count := ha.count
  fits f hf := by
    unfold KeyedField.standing
    split_ifs
    · exact (ha.fits f hf).1
    · exact (ha.fits f hf).2

theorem HoldsPartly.ofBytes (h : HoldsPartly view s rewritten rt c r) (ha : s.Addressable) :
    Container.ofBytes c.toBytes = .ok c :=
  Container.ofBytes_toBytes (h.stores.fits (h.wellKeyed ha) h.storable)

theorem HoldsPartly.find (h : HoldsPartly view s rewritten rt c r) (ha : s.Addressable) :
    ctx.find rt.store = .ok (some c) :=
  find_eq_some_iff.mpr ⟨_, view.read_record h.readable h.stored, h.ofBytes ha⟩

/-- A record of which it is said that it should be migrated counts as legacy, and is still there
    when that was said. -/
theorem HoldsPartly.legacy (h : HoldsPartly view s rewritten rt c r) (ha : s.Addressable)
    {model : String} (hasked : (ctx.shouldMigrate model s rt).1 = .ok true) :
    HoldsLegacy view s (ctx.shouldMigrate model s rt).2 c.toBytes c := by
  cases hc : s.assess c with
  | none =>
    obtain ⟨hanswer, -⟩ := shouldMigrate_panicked (s := s) model (h.find ha) hc rt rfl h.gate
    cases hanswer.symm.trans hasked
  | some a =>
    obtain ⟨hanswer, hstore, hgate⟩ := shouldMigrate_some model (h.find ha) hc rt rfl h.gate
    have hlegacy : a = .legacy :=
      of_decide_eq_true (Except.ok.inj (hanswer.symm.trans hasked))
    refine ⟨hgate, ?_, ?_, h.ofBytes ha, hc.trans (congrArg some hlegacy)⟩
    · rw [hstore]
      exact (view.fault_read rt.store).trans h.readable
    · rw [hstore]
      exact (view.bytes_read rt.store).trans h.stored

/-- With a store that accepts every write, what is loaded after a migration is what was looked
    up. -/
theorem HoldsLegacy.migrated_and_loaded_iff (h : HoldsLegacy view s rt bytes c)
    (hs : s.WellFormed) (haccepts : ∀ out, ctx.answer rt out = .ok ()) (model : String) :
    (ctx.migrate model s rt).1 = .ok .migrated ∧
      (ctx.load s (ctx.migrate model s rt).2).1 = .ok r' ↔ s.LookedUp c r' := by
  constructor
  · rintro ⟨hdone, hload⟩
    rcases h.outcome hs model with ⟨e, -, he⟩ | ⟨-, he⟩ | ⟨r, new, hr, hnew, -⟩
    · cases hdone.symm.trans he
    · cases hdone.symm.trans he
    · obtain ⟨-, -, hloaded⟩ := h.accepted hs model hr hnew (haccepts _)
      obtain rfl := Except.ok.inj (hloaded.symm.trans hload)
      exact hr
  · intro hr
    obtain ⟨new, hnew⟩ := h.exists_holds hr
    obtain ⟨hdone, -, hload⟩ := h.accepted hs model hr hnew (haccepts _)
    exact ⟨hdone, hload⟩

end Migrate

section Planned

variable {name : Option Source.Ident} {item : Source.Item} {found : Found}
  {before : List Diagnostic} {p : ModelPlan} {old : KeySet} {types : PlanTypes}

/-- A record that should be migrated and has some of its fields rewritten already is completed if
    no rewritten field has the old key of another one. Otherwise it is completed exactly if what
    stands in the way reads as the value that belongs there. In any case every field gets what
    the field that answers for it is read as, or else the record stays as it is, and the migration
    ends as the reading does. -/
theorem migrate_completes_iff (hfound : (Description.find name item).1 = some found)
    (hplan : (ModelPlan.build found.model before).1 = some p) (hold : p.oldKeys = some old)
    (ha : (p.recordSchema types).Addressable) {r : (p.recordSchema types).Record}
    (h : HoldsPartly view (p.recordSchema types) rewritten rt c r) (model : String)
    (hasked : (ctx.shouldMigrate model (p.recordSchema types) rt).1 = .ok true)
    (haccepts : ∀ out,
      ctx.answer (ctx.shouldMigrate model (p.recordSchema types) rt).2 out = .ok ()) :
    let s := p.recordSchema types
    let done := ctx.migrate model s (ctx.shouldMigrate model s rt).2
    let loaded := (ctx.load s done.2).1
    ((∀ f ∈ s.fields, ∀ g ∈ s.fields, rewritten f → rewritten g → f.oldKey = g.key → f = g) →
      done.1 = .ok .migrated ∧ loaded = .ok r) ∧
    (done.1 = .ok .migrated ∧ loaded = .ok r ↔ s.Undisturbed rewritten r) ∧
    (∀ r', done.1 = .ok .migrated ∧ loaded = .ok r' ↔ s.ReadsPartly rewritten r r') ∧
    ((¬ ∃ r', s.ReadsPartly rewritten r r') →
      ∃ stop, done.1 = .error (.ofStop stop) ∧ view.bytes done.2.store = some c.toBytes) := by
  intro s done loaded
  obtain ⟨hs, ho, -⟩ := wellKeyed_of_plan hfound hplan hold ha
  have hstanding := h.wellKeyed ha
  have hlegacy := h.legacy ha hasked
  have hlooked : ∀ r', s.LookedUp c r' ↔ s.ReadsPartly rewritten r r' := fun r' =>
    lookedUp_iff_readsPartly hstanding h.stores
  have hloaded : ∀ r', done.1 = .ok .migrated ∧ loaded = .ok r' ↔ s.ReadsPartly rewritten r r' :=
    fun r' => (hlegacy.migrated_and_loaded_iff hs haccepts model).trans (hlooked r')
  have hcompleted := (hloaded r).trans (readsPartly_self_iff hstanding ho h.storable)
  refine ⟨fun hapart => hcompleted.mpr ?_, hcompleted, hloaded, fun hnone => ?_⟩
  · intro i j hi hj hkey
    have hfields := hapart _ (List.get_mem _ i) _ (List.get_mem _ j) hi hj hkey.symm
    obtain rfl : j = i := hs.eq_of_key_eq (congrArg KeyedField.key hfields.symm)
    obtain ⟨-, bytes, hb, -⟩ := h.storable j
    exact ⟨bytes, hb, h.storable.reads hb⟩
  · rcases s.lookedUp_or_not c with ⟨r', hr'⟩ | ⟨e, he⟩ | hpanic
    · exact absurd ⟨r', (hlooked r').mp hr'⟩ hnone
    · exact ⟨.fail e, hlegacy.unreadable model he⟩
    · exact ⟨.panic, hlegacy.unholdable model hpanic⟩

end Planned

/-! ## A chain of renamed keys -/

/-- Three texts, where the second had the key that the first has now. -/
def chainSchema : RecordSchema :=
  ⟨⟨.text, [⟨"First", .text "b"⟩, ⟨"Second", .text "c"⟩, ⟨"Third", .text "y"⟩]⟩,
    ⟨.text, [⟨"First", .text "a"⟩, ⟨"Second", .text "b"⟩, ⟨"Third", .text "x"⟩]⟩,
    [⟨"first", .string, .text "b", .text "a"⟩, ⟨"second", .string, .text "c", .text "b"⟩,
      ⟨"third", .string, .text "y", .text "x"⟩]⟩

/-- The description of these texts. -/
def chainItem : Source.Item :=
  .module ⟨[], .inherited, false, .ofName "chain"⟩ (some [
    textStruct "Chain" [([], .ofName "first"), ([], .ofName "second"), ([], .ofName "third")],
    keysItem "model_coding_key" "Keys" [("First", "b"), ("Second", "c"), ("Third", "y")],
    keysItem "migration" "Old" [("First", "a"), ("Second", "b"), ("Third", "x")]])

/-- The description is accepted, and its records are stored as the schema says. -/
theorem exists_chainPlan : ∃ found p old, (Description.find none chainItem).1 = some found ∧
    (ModelPlan.build found.model []).1 = some p ∧ p.oldKeys = some old ∧
    p.recordSchema textTypes = chainSchema := by
  have haccepted : accepted? chainItem
      (fun _ p => (p.oldKeys.isSome, p.recordSchema textTypes)) = some (true, chainSchema) := by
    decide +kernel
  obtain ⟨found, p, hfound, hplan, h⟩ := exists_of_accepted? haccepted
  obtain ⟨hsome, hs⟩ := Prod.mk.inj h
  obtain ⟨old, hold⟩ := Option.isSome_iff_exists.mp hsome
  exact ⟨found, p, old, hfound, hplan, hold, hs⟩

theorem addressable_chainSchema : chainSchema.Addressable where
  count := by decide
  fits := by decide

/-- The three texts. -/
def oneTwoThree : chainSchema.Record := ("one", "two", "three", ())

theorem encode_three : FieldType.encode .string "three" = .ok [5, 116, 104, 114, 101, 101] := by rfl

theorem storable_oneTwoThree : chainSchema.Storable oneTwoThree := by
  have hshort : FieldType.Fits .string "one" ∧ FieldType.Fits .string "two" :=
    ⟨(by decide : 3 < memoryLimit), (by decide : 3 < memoryLimit)⟩
  have hthree : FieldType.Fits .string "three" := (by decide : 5 < memoryLimit)
  rintro ⟨i, hi⟩
  match i, hi with
  | 0, _ => exact ⟨hshort.1, _, encode_one, by decide⟩
  | 1, _ => exact ⟨hshort.2, _, encode_two, by decide⟩
  | 2, _ => exact ⟨hthree, _, encode_three, by decide⟩

/-- The fields with these labels are rewritten. -/
def labelled (labels : List String) (f : KeyedField) : Bool := labels.contains f.label

/-- The three texts, some of them under their new keys. -/
def chainContainer (rewritten : KeyedField → Bool) : Container :=
  ⟨0, List.zipWith (fun f bytes => ⟨f.standing rewritten, bytes⟩) chainSchema.fields
    [[3, 111, 110, 101], [3, 116, 119, 111], [5, 116, 104, 114, 101, 101]]⟩

/-- The state in which they are stored. -/
def chainStored (rewritten : KeyedField → Bool) : Runtime (Option (List UInt8)) :=
  ⟨some (chainContainer rewritten).toBytes, false, .withHistory 0, []⟩

theorem holdsPartly_chainStored
    (hn : (chainSchema.fields.map (KeyedField.standing rewritten)).Nodup) :
    HoldsPartly memoryRecord chainSchema rewritten (chainStored rewritten)
      (chainContainer rewritten) oneTwoThree where
  gate := rfl
  readable := rfl
  stored := rfl
  storable := storable_oneTwoThree
  distinct := hn
  stores := ⟨_, .refl _,
    .cons ⟨rfl, encode_one⟩ (.cons ⟨rfl, encode_two⟩ (.cons ⟨rfl, encode_three⟩ .nil))⟩

/-- The fingerprint of the stored texts is that of neither key set. -/
theorem chainContainer_schema : (chainContainer rewritten).schema ≠ chainSchema.keys.fingerprint ∧
    (chainContainer rewritten).schema ≠ chainSchema.oldKeys.fingerprint := by
  have hfingerprints : (0 : UInt64) ≠ chainSchema.keys.fingerprint ∧
      (0 : UInt64) ≠ chainSchema.oldKeys.fingerprint := by
    decide +kernel
  exact hfingerprints

/-- The stored texts count as legacy unless one of them is malformed. -/
theorem assess_chainContainer (hprobe : chainSchema.probe (chainContainer rewritten) = none) :
    chainSchema.assess (chainContainer rewritten) = some .legacy := by
  obtain ⟨hnew, hold⟩ := @chainContainer_schema rewritten
  unfold RecordSchema.assess Container.isWrittenWith
  rw [beq_false_of_ne hnew, beq_false_of_ne hold, hprobe]
  rfl

theorem shouldMigrate_chainStored
    (hn : (chainSchema.fields.map (KeyedField.standing rewritten)).Nodup)
    (hprobe : chainSchema.probe (chainContainer rewritten) = none) :
    (memoryContext.shouldMigrate "Chain" chainSchema (chainStored rewritten)).1 = .ok true := by
  have hfind := (holdsPartly_chainStored hn).find addressable_chainSchema
  exact (shouldMigrate_some "Chain" hfind (assess_chainContainer hprobe) _ rfl rfl).1

/-- The first two of the three texts are rewritten. -/
def twoMoved : KeyedField → Bool := labelled ["first", "second"]

/-- The second of the three texts is rewritten. -/
def oneMoved : KeyedField → Bool := labelled ["second"]

/-- Where the first two texts are rewritten, the second one is lost: under its old key stands the
    first, which is taken for both. -/
theorem migrate_repeats_text :
    let rt := chainStored twoMoved
    let asked := memoryContext.shouldMigrate "Chain" chainSchema rt
    let done := memoryContext.migrate "Chain" chainSchema asked.2
    let repeated : chainSchema.Record := ("one", "one", "three", ())
    (∃ found p old, (Description.find none chainItem).1 = some found ∧
      (ModelPlan.build found.model []).1 = some p ∧ p.oldKeys = some old ∧
      p.recordSchema textTypes = chainSchema) ∧
    HoldsPartly memoryRecord chainSchema twoMoved rt (chainContainer twoMoved) oneTwoThree ∧
    (chainContainer twoMoved).schema ≠ chainSchema.keys.fingerprint ∧
    (chainContainer twoMoved).schema ≠ chainSchema.oldKeys.fingerprint ∧
    asked.1 = .ok true ∧ done.1 = .ok .migrated ∧
    (memoryContext.load chainSchema done.2).1 = .ok repeated ∧ repeated ≠ oneTwoThree := by
  intro rt asked done repeated
  have hn : (chainSchema.fields.map (KeyedField.standing twoMoved)).Nodup := by decide
  have h := holdsPartly_chainStored hn
  have hasked : asked.1 = .ok true := shouldMigrate_chainStored hn (by decide +kernel)
  have hlooked : chainSchema.LookedUp (chainContainer twoMoved) repeated := by
    have hone := FieldType.reads_encode encode_one (by decide : 3 < memoryLimit) []
    have hthree := FieldType.reads_encode encode_three (by decide : 5 < memoryLimit) []
    rintro ⟨i, hi⟩
    match i, hi with
    | 0, _ => exact ⟨_, rfl, hone⟩
    | 1, _ => exact ⟨_, rfl, hone⟩
    | 2, _ => exact ⟨_, rfl, hthree⟩
  have hs : chainSchema.WellFormed :=
    ⟨by decide, addressable_chainSchema.count, fun f hf => (addressable_chainSchema.fits f hf).1⟩
  obtain ⟨hdone, hload⟩ := ((h.legacy addressable_chainSchema hasked).migrated_and_loaded_iff hs
    (memoryContext_answer _) "Chain").mpr hlooked
  refine ⟨exists_chainPlan, h, chainContainer_schema.1, chainContainer_schema.2, hasked, hdone,
    hload, ?_⟩
  intro heq
  have hsecond : ("one" : String) = "two" := congrArg (fun r => r.2.1) heq
  exact absurd hsecond (by decide)

/-- Where only the second text is rewritten, the migration completes the record, although the
    first text has now the key that the second had. -/
theorem migrate_completes_chain : ∃ found p old,
    (Description.find none chainItem).1 = some found ∧
    (ModelPlan.build found.model []).1 = some p ∧ p.oldKeys = some old ∧
    (p.recordSchema textTypes).Addressable ∧
    ∃ r c rt, HoldsPartly memoryRecord (p.recordSchema textTypes) oneMoved rt c r ∧
      let asked := memoryContext.shouldMigrate "Chain" (p.recordSchema textTypes) rt
      let done := memoryContext.migrate "Chain" (p.recordSchema textTypes) asked.2
      asked.1 = .ok true ∧ (∀ out, memoryContext.answer asked.2 out = .ok ()) ∧
      done.1 = .ok .migrated ∧
      (memoryContext.load (p.recordSchema textTypes) done.2).1 = .ok r := by
  obtain ⟨found, p, old, hfound, hplan, hold, hs⟩ := exists_chainPlan
  have ha : (p.recordSchema textTypes).Addressable := by
    rw [hs]
    exact addressable_chainSchema
  have hn : (chainSchema.fields.map (KeyedField.standing oneMoved)).Nodup := by decide
  have hstored : ∃ r c rt, HoldsPartly memoryRecord (p.recordSchema textTypes) oneMoved rt c r ∧
      (memoryContext.shouldMigrate "Chain" (p.recordSchema textTypes) rt).1 = .ok true := by
    rw [hs]
    exact ⟨_, _, _, holdsPartly_chainStored hn, shouldMigrate_chainStored hn (by decide +kernel)⟩
  obtain ⟨r, c, rt, h, hasked⟩ := hstored
  have haccepts := memoryContext_answer
    (memoryContext.shouldMigrate "Chain" (p.recordSchema textTypes) rt).2
  have hapart : ∀ f ∈ (p.recordSchema textTypes).fields, ∀ g ∈ (p.recordSchema textTypes).fields,
      oneMoved f → oneMoved g → f.oldKey = g.key → f = g := by
    rw [hs]
    decide
  obtain ⟨hcompletes, -⟩ :=
    migrate_completes_iff hfound hplan hold ha h "Chain" hasked haccepts
  obtain ⟨hdone, hload⟩ := hcompletes hapart
  exact ⟨found, p, old, hfound, hplan, hold, ha, r, c, rt, h, hasked, haccepts, hdone, hload⟩

end Context

end KeyedRecords
