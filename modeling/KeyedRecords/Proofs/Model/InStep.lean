import KeyedRecords.Proofs.Model.LegacyRecord
import KeyedRecords.Proofs.Model.Operation

/-!
# Memory and store in step

An instance whose store nobody else writes to. Its writes, and any other operation of the store,
may be refused at any time. As long as its slots are loaded, the stored record is the one in the
slots: a write that fails leaves both as they were.

Result:
* `memory_and_store_in_step`
-/

namespace KeyedRecords.Instance

open Codec

variable {m : Model} {σ : Type} {ctx : Context σ} {store : ctx.store.Atomic}

/-! ## Runs -/

/-- There is room for what is assigned. -/
def Op.Sized : Op m → Prop
  | set i v => (m.schema.fields.get i).type.Sized v
  | _ => True

/-- There is room for what the instance is made from. -/
def Origin.Sized : Origin m → Prop
  | created r _ => m.schema.Sized r
  | decoded c _ => ∀ e ∈ c.entries, e.bytes.length < memoryLimit
  | _ => True

/-- The record of the instance is the stored one, or will be when it is loaded. -/
def Origin.FollowsStore : Origin m → Prop
  | decoded _ _ => False
  | _ => True

/-- The states of an instance and of the store that it alone writes to. -/
inductive Reachable (store : ctx.store.Atomic) : Instance m × Runtime σ → Prop
  | build {o : Origin m} {rt : Runtime σ} {inst : Instance m} (follows : o.FollowsStore)
    (sized : o.Sized) (built : (o.build ctx rt).1 = .ok inst) :
    Reachable store (inst, (o.build ctx rt).2)
  | run {w : Instance m × Runtime σ} (op : Op m) (sized : op.Sized) (reachable : Reachable store w) :
    Reachable store (op.run ctx w).2
  /-- Anything but the stored record may change from outside: faults come and go, the gate is
      poisoned, observers are added. -/
  | outside {inst : Instance m} {rt rt' : Runtime σ}
    (kept : store.bytes rt'.store = store.bytes rt.store) (reachable : Reachable store (inst, rt)) :
    Reachable store (inst, rt')

/-! ## The invariant -/

/-- The store holds the record. -/
def Stored (store : ctx.store.Atomic) (st : σ) (r : m.schema.Record) : Prop :=
  ∃ b, store.bytes st = some b ∧ m.schema.ofBytes b = .ok r

/-- If the slots are loaded, the store holds the record in them. -/
def InStep (store : ctx.store.Atomic) (slots : Option m.schema.Record) (st : σ) : Prop :=
  ∀ r, slots = some r → Stored store st r

section Steps

variable {inst : Instance m} {st st' : σ} {p : Bool} {r : m.schema.Record}

theorem Stored.congr (h : Stored store st r) (hkept : store.bytes st' = store.bytes st) :
    Stored store st' r := by
  obtain ⟨b, hb, hr⟩ := h
  exact ⟨b, hkept.trans hb, hr⟩

theorem Stored.sized (h : Stored store st r) : m.schema.Sized r := by
  obtain ⟨b, -, hr⟩ := h
  exact RecordSchema.sized_of_ofBytes hr

/-- The stored record is one record. -/
theorem Stored.unique {r' : m.schema.Record} (h : Stored store st r) (h' : Stored store st r') :
    r = r' := by
  obtain ⟨b, hb, hr⟩ := h
  obtain ⟨b', hb', hr'⟩ := h'
  obtain rfl : b = b' := Option.some.inj (hb.symm.trans hb')
  exact Except.ok.inj (hr.symm.trans hr')

theorem InStep.none : InStep (m := m) store none st := by
  rintro r ⟨⟩

theorem InStep.some (h : Stored store st r) : InStep store (some r) st := by
  rintro r' ⟨⟩
  exact h

/-- An operation on an instance in step works on the stored record. -/
theorem Works.stored (h : InStep store inst.slots st) (hw : Works ctx inst st p r) :
    Stored store st r := by
  rcases hw with hloaded | ⟨-, hfetch⟩
  · exact h r hloaded
  · exact Context.fetch_eq_ok store hfetch

/-- Where its bytes are, a record is stored. -/
theorem stored_of_toBytes (hs : m.schema.WellFormed) (hr : m.schema.Sized r) {b : List UInt8}
    (encoded : m.schema.toBytes r = .ok b) (stored : store.bytes st = some b) : Stored store st r :=
  ⟨b, stored, RecordSchema.ofBytes_of_toBytes hs hr encoded⟩

/-- Every operation keeps memory and store in step. -/
theorem Course.inStep (hs : m.schema.WellFormed) {op : Op m} (hop : op.Sized)
    {result : Except Failure op.Result} {slots' : Option m.schema.Record}
    (h : InStep store inst.slots st) (hc : Course store inst st p op result slots' st') :
    InStep store slots' st' := by
  cases hc with
  | unloaded => exact InStep.none
  | get works kept => exact InStep.some ((works.stored h).congr kept)
  | set works written =>
    have hr := works.stored h
    cases written with
    | accepted encoded stored =>
      exact InStep.some (stored_of_toBytes hs (hr.sized.set hop) encoded stored)
    | refused kept => exact InStep.some (hr.congr kept)
  | getIgnored kept => exact fun r hr => (h r hr).congr kept
  | setIgnored kept => exact fun r hr => (h r hr).congr kept
  | save works written =>
    have hr := works.stored h
    cases written with
    | accepted encoded stored => exact InStep.some (stored_of_toBytes hs hr.sized encoded stored)
    | refused kept => exact InStep.some (hr.congr kept)
  | reload fetched kept => exact InStep.some (.congr (Context.fetch_eq_ok store fetched) kept)
  | notReloaded failed kept => exact fun r hr => (h r hr).congr kept
  | encode works kept => exact InStep.some ((works.stored h).congr kept)

/-- An instance begins in step with the store. -/
theorem Origin.Course.inStep (hs : m.schema.WellFormed) {o : Origin m} (hfollows : o.FollowsStore)
    (hsized : o.Sized) {slots : Option m.schema.Record}
    (hc : Origin.Course store st p o (.ok slots) st') : InStep store slots st' := by
  cases hc with
  | created encoded stored => exact InStep.some (stored_of_toBytes hs hsized encoded stored)
  | opened => exact InStep.none
  | loaded fetched kept => exact InStep.some (.congr (Context.fetch_eq_ok store fetched) kept)
  | decoded => exact hfollows.elim

end Steps

theorem Reachable.inStep (hs : m.schema.WellFormed) {w : Instance m × Runtime σ}
    (h : Reachable store w) : InStep store w.1.slots w.2.store := by
  induction h with
  | @build o rt inst follows sized built =>
    have hc := (o.course store rt).1
    rw [built] at hc
    exact Origin.Course.inStep hs follows sized hc
  | run op sized _ ih => exact (course store op _).1.inStep hs sized ih
  | outside kept _ ih => exact fun r hr => (ih r hr).congr kept

/-! ## What an operation changes -/

section Changes

variable {inst : Instance m} {st st' : σ} {p : Bool} {slots' : Option m.schema.Record}

/-- An operation that fails leaves the stored record and loaded slots as they were. -/
theorem Course.of_error {op : Op m} {result : Except Failure op.Result}
    (hc : Course store inst st p op result slots' st') {e : Failure} (he : result = .error e) :
    store.bytes st' = store.bytes st ∧ ∀ r, inst.slots = some r → slots' = some r := by
  -- the record that the operation works on is the one in loaded slots
  have hloaded : ∀ {r r' : m.schema.Record}, Works ctx inst st p r → inst.slots = some r' →
      some r = some r' := by
    rintro r r' (h | ⟨h, -⟩) h'
    · exact h.symm.trans h'
    · cases h.symm.trans h'
  cases hc with
  | unloaded _ empty _ kept => exact ⟨kept, fun r hr => empty.symm.trans hr⟩
  | get => cases he
  | set works written =>
    cases he
    cases written with
    | refused kept => exact ⟨kept, fun r' => hloaded works⟩
  | getIgnored => cases he
  | setIgnored => cases he
  | save works written =>
    cases he
    cases written with
    | refused kept => exact ⟨kept, fun r' => hloaded works⟩
  | reload => cases he
  | notReloaded _ kept => exact ⟨kept, fun r hr => hr⟩
  | encode works kept => exact ⟨kept, fun r' => hloaded works⟩

/-- An assignment that succeeds has written the record with the new value. -/
theorem Course.of_set_ok {i : Fin m.schema.fields.length}
    {v : (m.schema.fields.get i).type.Value}
    (hc : Course store inst st p (.set i v) (.ok ()) slots' st') :
    ∃ r b, Works ctx inst st p r ∧ slots' = some (r.set i v) ∧
      m.schema.toBytes (r.set i v) = .ok b ∧ store.bytes st' = some b := by
  cases hc with
  | set works written =>
    cases written with
    | accepted encoded stored => exact ⟨_, _, works, rfl, encoded, stored⟩

end Changes

/-- An assignment that succeeded: one field has its new value, in the slots and in the store, and
    no other field has changed. -/
structure Assigned (store : ctx.store.Atomic) (w w' : Instance m × Runtime σ)
    (i : Fin m.schema.fields.length) (v : (m.schema.fields.get i).type.Value)
    (before after : m.schema.Record) : Prop where
  stored : Stored store w.2.store before
  loaded : ∀ r, w.1.slots = some r → r = before
  slots : w'.1.slots = some after
  field : after.get i = v
  others : ∀ j, j ≠ i → after.get j = before.get j
  written : ∃ b, m.schema.toBytes after = .ok b ∧ store.bytes w'.2.store = some b

/-- Memory and store are in step in every reachable state. An assignment that succeeds changes
    one field in both, and an operation that fails changes neither. -/
theorem memory_and_store_in_step (hs : m.schema.WellFormed) {w : Instance m × Runtime σ}
    (h : Reachable store w) :
    (∀ r, w.1.slots = some r → Stored store w.2.store r) ∧
    (∀ i v, (Instance.set ctx i v w).1 = .ok () →
      ∃ before after, Assigned store w (Instance.set ctx i v w).2 i v before after) ∧
    ∀ (op : Op m) (e : Failure), (op.run ctx w).1 = .error e →
      store.bytes (op.run ctx w).2.2.store = store.bytes w.2.store ∧
      ∀ r, w.1.slots = some r → (op.run ctx w).2.1.slots = some r := by
  have hstep := h.inStep hs
  refine ⟨hstep, fun i v hok => ?_, fun op e => (course store op w).1.of_error⟩
  have hc := (course store (.set i v) w).1
  have hresult : ((Op.set i v).run ctx w).1 = .ok () := hok
  rw [hresult] at hc
  obtain ⟨r, b, hworks, hslots, hencoded, hstored⟩ := hc.of_set_ok
  have hr := hworks.stored hstep
  exact ⟨r, r.set i v, hr, fun r' hr' => (hstep r' hr').unique hr, hslots,
    Values.get_set_self r i v, fun j hj => Values.get_set_of_ne r v hj, b, hencoded, hstored⟩

/-! ## Settings whose writes come to be refused -/

open Samples RecordStore

theorem sized_eight : int64.Sized (8#64 : BitVec 64) := by
  have hencode : FieldType.encode int64 (8#64 : BitVec 64) = .ok [16] := by rfl
  exact FieldType.sized_of_encode trivial hencode (by decide)

theorem sized_newSettings : newSettings.Sized :=
  (RecordSchema.storable_of_lookedUp Context.fits_partialSettings
    Context.lookedUp_partialSettings).sized

/-- The settings as they are made. -/
def settingsAtFirst : Instance migratingSettings × Runtime FaultyCell :=
  (⟨some (7#64, "a", ()), ("", ())⟩, (newSettings.build faultyContext emptyCell).2)

/-- The settings with a new number. -/
def settingsNumbered : Instance migratingSettings × Runtime FaultyCell :=
  ((Op.set number (8#64 : BitVec 64)).run faultyContext settingsAtFirst).2

/-- The settings with the new number, and writes that are refused. -/
def settingsRefused : Instance migratingSettings × Runtime FaultyCell :=
  (settingsNumbered.1, { settingsNumbered.2 with store := refuseWrites settingsNumbered.2.store })

theorem reachable_settingsAtFirst : Reachable faultyRecord settingsAtFirst :=
  .build trivial sized_newSettings rfl

theorem reachable_settingsRefused : Reachable faultyRecord settingsRefused := by
  have hnumbered : Reachable faultyRecord (settingsNumbered.1, settingsNumbered.2) :=
    .run (.set number (8#64 : BitVec 64)) sized_eight reachable_settingsAtFirst
  refine .outside ?_ hnumbered
  rfl

/-- The number is assigned once. The second assignment is refused, and the number that was
    assigned first stays in memory and in the store. -/
theorem memory_and_store_in_step_settings :
    migratingSettings.schema.WellFormed ∧ Reachable faultyRecord settingsAtFirst ∧
    Reachable faultyRecord settingsRefused ∧
    (∃ before after, Assigned faultyRecord settingsAtFirst settingsNumbered number
      (8#64 : BitVec 64) before after) ∧
    settingsRefused.1.slots = some (8#64, "a", ()) ∧
    ∃ w, (Instance.set faultyContext number (9#64 : BitVec 64) settingsRefused).2 = w ∧
      w.1.slots = some (8#64, "a", ()) ∧
      Stored (m := migratingSettings) faultyRecord w.2.store (8#64, "a", ()) := by
  have hs := Context.wellFormed_migratingSettings
  obtain ⟨-, hassigned, -⟩ := memory_and_store_in_step hs reachable_settingsAtFirst
  obtain ⟨hstored, -, hfailed⟩ := memory_and_store_in_step hs reachable_settingsRefused
  have hslots : settingsRefused.1.slots = some (8#64, "a", ()) := rfl
  obtain ⟨hkept, hloaded⟩ := hfailed (.set number (9#64 : BitVec 64)) _ rfl
  exact ⟨hs, reachable_settingsAtFirst, reachable_settingsRefused, hassigned _ _ rfl, hslots, _,
    rfl, hloaded _ hslots, (hstored _ hslots).congr hkept⟩

end KeyedRecords.Instance
