import KeyedRecords.Model.Samples
import KeyedRecords.Proofs.Model.WriteBack

/-!
# The operations of an instance

`Instance.Op` lists what may be done with an instance, and `Instance.Course` says what each
operation can come to: what it gives, what it leaves in the slots, and what becomes of the stored
record. Whatever holds of every run of an instance follows from it by cases.

Result:
* `course`: every operation takes a course.
-/

namespace KeyedRecords

/-! ## Methods -/

namespace Method

variable {m : Model} {σ α β : Type} {inst inst' inst'' : Instance m} {s s' s'' : σ} {p : Bool}

/-- The method gives `result`, and leaves the instance `inst'` and the store in state `s'`,
    whatever was logged and observed before. The gate stays as it is. -/
def Ends (a : Method m σ α) (inst : Instance m) (s : σ) (p : Bool) (result : Except Failure α)
    (inst' : Instance m) (s' : σ) : Prop :=
  ∀ rt : Runtime σ, rt.store = s → rt.poisoned = p →
    (a (inst, rt)).1 = result ∧ (a (inst, rt)).2.1 = inst' ∧
      (a (inst, rt)).2.2.store = s' ∧ (a (inst, rt)).2.2.poisoned = p

theorem bind_apply (a : Method m σ α) (f : α → Method m σ β) (st : Instance m × Runtime σ) :
    (a >>= f) st = match (a st).1 with
      | .ok v => f v (a st).2
      | .error e => (.error e, (a st).2) := by
  change (StateT.bind a (ExceptT.bindCont f)) st = _
  simp only [StateT.bind]
  cases a st with
  | mk r st' => cases r <;> rfl

theorem Ends.pure (v : α) (inst : Instance m) (s : σ) (p : Bool) :
    Ends (pure v) inst s p (.ok v) inst s :=
  fun _ hs hp => ⟨rfl, rfl, hs, hp⟩

theorem Ends.throw (e : Failure) (inst : Instance m) (s : σ) (p : Bool) :
    Ends (throw e : Method m σ α) inst s p (.error e) inst s :=
  fun _ hs hp => ⟨rfl, rfl, hs, hp⟩

theorem Ends.bind {a : Method m σ α} {f : α → Method m σ β} {v : α} {result : Except Failure β}
    (ha : Ends a inst s p (.ok v) inst' s') (hf : Ends (f v) inst' s' p result inst'' s'') :
    Ends (a >>= f) inst s p result inst'' s'' := by
  intro rt hs hp
  obtain ⟨hr, hi, hs', hp'⟩ := ha rt hs hp
  rw [bind_apply, hr]
  have h := hf _ hs' hp'
  rwa [← hi] at h

/-- What comes after a failure does not take place. -/
theorem Ends.bind_error {a : Method m σ α} {f : α → Method m σ β} {e : Failure}
    (ha : Ends a inst s p (.error e) inst' s') :
    Ends (a >>= f) inst s p (.error e) inst' s' := by
  intro rt hs hp
  obtain ⟨hr, hrest⟩ := ha rt hs hp
  rw [bind_apply, hr]
  exact ⟨rfl, hrest⟩

/-- An action on the shared state leaves the instance alone. -/
theorem ends_lift {a : Action σ α} {result : Except Failure α} (ha : a.Ends s p result s')
    (inst : Instance m) : Ends (lift a) inst s p result inst s' := by
  intro rt hs hp
  obtain ⟨hr, hs', hp'⟩ := ha rt hs hp
  exact ⟨hr, rfl, hs', hp'⟩

theorem ends_self : Ends self inst s p (.ok inst) inst s := fun _ hs hp => ⟨rfl, rfl, hs, hp⟩

theorem ends_setSlots (slots : Option m.schema.Record) :
    Ends (setSlots slots) inst s p (.ok ()) { inst with slots } s :=
  fun _ hs hp => ⟨rfl, rfl, hs, hp⟩

/-- Slots may be given the record that they hold. -/
theorem ends_setSlots_same {slots : Option m.schema.Record} (h : inst.slots = slots) :
    Ends (setSlots slots) inst s p (.ok ()) inst s := by
  subst h
  exact ends_setSlots inst.slots

theorem ends_setIgnored (ignored : IgnoredValues m.ignored) :
    Ends (setIgnored ignored) inst s p (.ok ()) { inst with ignored } s :=
  fun _ hs hp => ⟨rfl, rfl, hs, hp⟩

end Method

namespace Instance

/-! ## Operations -/

/-- What may be done with an instance: its accessors and the operations on its whole record. -/
inductive Op (m : Model)
  | get (i : Fin m.schema.fields.length)
  | set (i : Fin m.schema.fields.length) (value : (m.schema.fields.get i).type.Value)
  | getIgnored (i : Fin m.ignored.length)
  | setIgnored (i : Fin m.ignored.length) (value : (m.ignored.get i).type.Value)
  | save
  | reload
  | encode

variable {m : Model} {σ : Type}

/-- What an operation gives when it succeeds. -/
abbrev Op.Result : Op m → Type
  | get i => (m.schema.fields.get i).type.Value
  | set _ _ => Unit
  | getIgnored i => (m.ignored.get i).type.Value
  | setIgnored i _ => (m.ignored.get i).type.Value
  | save => Unit
  | reload => m.schema.Record
  | encode => Container

/-- An operation as a method of the instance. -/
def Op.run (ctx : Context σ) : (op : Op m) → Method m σ op.Result
  | get i => Instance.get ctx i
  | set i value => Instance.set ctx i value
  | getIgnored i => Instance.getIgnored ctx i
  | setIgnored i value => Instance.setIgnored ctx i value
  | save => Instance.save ctx
  | reload => Instance.reload ctx
  | encode => Instance.encode ctx

/-- Whether an operation works on the record in the slots, which is loaded if need be. -/
def Op.populates : Op m → Prop
  | get _ | set _ _ | save | encode => True
  | getIgnored _ | setIgnored _ _ | reload => False

section Courses

variable {ctx : Context σ} {inst : Instance m} {st : σ} {p : Bool}

/-- The record that an operation works on: the one in the slots, or else the one that a load
    gives. -/
def Works (ctx : Context σ) (inst : Instance m) (st : σ) (p : Bool) (r : m.schema.Record) : Prop :=
  inst.slots = some r ∨ inst.slots = none ∧ ctx.fetch m.schema st p = .ok r

/-- What an operation can come to. The indices are the operation, what it gives, the slots after
    it and the state of the store after it. -/
inductive Course (store : ctx.store.Atomic) (inst : Instance m) (st : σ) (p : Bool) :
    (op : Op m) → Except Failure op.Result → Option m.schema.Record → σ → Prop
  /-- Unloaded slots could not be loaded. -/
  | unloaded {op : Op m} {e : Failure} {st' : σ} (populates : op.populates)
    (empty : inst.slots = none) (failed : ctx.fetch m.schema st p = .error e)
    (kept : store.bytes st' = store.bytes st) : Course store inst st p op (.error e) none st'
  | get {i : Fin m.schema.fields.length} {r : m.schema.Record} {st' : σ}
    (works : Works ctx inst st p r) (kept : store.bytes st' = store.bytes st) :
    Course store inst st p (.get i) (.ok (r.get i)) (some r) st'
  | set {i : Fin m.schema.fields.length} {v : (m.schema.fields.get i).type.Value}
    {r : m.schema.Record} {outcome : Except Failure Unit} {st' : σ} (works : Works ctx inst st p r)
    (written : Context.Written store m.schema (r.set i v) st st' outcome) :
    Course store inst st p (.set i v) outcome (some (Context.committed r i v outcome)) st'
  | getIgnored {i : Fin m.ignored.length} {st' : σ} (kept : store.bytes st' = store.bytes st) :
    Course store inst st p (.getIgnored i) (.ok (inst.ignored.get i)) inst.slots st'
  | setIgnored {i : Fin m.ignored.length} {v : (m.ignored.get i).type.Value} {st' : σ}
    (kept : store.bytes st' = store.bytes st) :
    Course store inst st p (.setIgnored i v) (.ok (inst.ignored.get i)) inst.slots st'
  | save {r : m.schema.Record} {outcome : Except Failure Unit} {st' : σ}
    (works : Works ctx inst st p r)
    (written : Context.Written store m.schema r st st' outcome) :
    Course store inst st p .save outcome (some r) st'
  | reload {r : m.schema.Record} {st' : σ} (fetched : ctx.fetch m.schema st p = .ok r)
    (kept : store.bytes st' = store.bytes st) :
    Course store inst st p .reload (.ok r) (some r) st'
  | notReloaded {e : Failure} {st' : σ} (failed : ctx.fetch m.schema st p = .error e)
    (kept : store.bytes st' = store.bytes st) :
    Course store inst st p .reload (.error e) inst.slots st'
  | encode {r : m.schema.Record} {st' : σ} (works : Works ctx inst st p r)
    (kept : store.bytes st' = store.bytes st) :
    Course store inst st p .encode ((m.schema.toContainer r).mapError Failure.encode) (some r) st'

/-! ## Populating the slots -/

/-- Loaded slots are not populated again. -/
theorem ends_populate_loaded {r : m.schema.Record} (h : inst.slots = some r) (occasion : String) :
    (populate ctx occasion).Ends inst st p (.ok r) inst st := by
  unfold populate
  refine Method.ends_self.bind ?_
  rw [h]
  exact Method.Ends.pure _ _ _ _

theorem ends_populate_unloaded {r : m.schema.Record} (h : inst.slots = none)
    (hf : ctx.fetch m.schema st p = .ok r) (occasion : String) :
    (populate ctx occasion).Ends inst st p (.ok r) { inst with slots := some r }
      (ctx.fetched st p) := by
  have hload := Context.ends_fetch ctx m.schema st p
  rw [hf] at hload
  unfold populate
  refine Method.ends_self.bind ?_
  rw [h]
  exact (Method.ends_lift (Action.ends_log _ _) _).bind ((Method.ends_lift hload _).bind
    ((Method.ends_setSlots _).bind (Method.Ends.pure _ _ _ _)))

/-- Slots whose record cannot be loaded stay unloaded. -/
theorem ends_populate_failed {e : Failure} (h : inst.slots = none)
    (hf : ctx.fetch m.schema st p = .error e) (occasion : String) :
    (populate ctx occasion).Ends inst st p (.error e) inst (ctx.fetched st p) := by
  have hload := Context.ends_fetch ctx m.schema st p
  rw [hf] at hload
  unfold populate
  refine Method.ends_self.bind ?_
  rw [h]
  exact (Method.ends_lift (Action.ends_log _ _) _).bind (Method.ends_lift hload _).bind_error

/-- Slots are populated with the record that the operation works on, or stay unloaded. -/
theorem exists_populate (store : ctx.store.Atomic) (inst : Instance m) (st : σ) (p : Bool)
    (occasion : String) : ∃ st', store.bytes st' = store.bytes st ∧
      ((∃ r, Works ctx inst st p r ∧
          (populate ctx occasion).Ends inst st p (.ok r) { inst with slots := some r } st') ∨
        ∃ e, inst.slots = none ∧ ctx.fetch m.schema st p = .error e ∧
          (populate ctx occasion).Ends inst st p (.error e) inst st') := by
  obtain ⟨slots, ignored⟩ := inst
  cases slots with
  | some r => exact ⟨st, rfl, .inl ⟨r, .inl rfl, ends_populate_loaded rfl occasion⟩⟩
  | none =>
    refine ⟨ctx.fetched st p, Context.bytes_fetched store st p, ?_⟩
    cases hf : ctx.fetch m.schema st p with
    | ok r => exact .inl ⟨r, .inr ⟨rfl, hf⟩, ends_populate_unloaded rfl hf occasion⟩
    | error e => exact .inr ⟨e, rfl, rfl, ends_populate_failed rfl hf occasion⟩

/-! ## Ignored fields -/

theorem ends_getIgnored (ctx : Context σ) (inst : Instance m) (st : σ) (p : Bool)
    (i : Fin m.ignored.length) :
    (getIgnored ctx i).Ends inst st p (.ok (inst.ignored.get i)) inst st :=
  (Method.ends_lift (Context.ends_access ctx _) _).bind
    (Method.ends_self.bind (Method.Ends.pure _ _ _ _))

theorem ends_setIgnored (ctx : Context σ) (inst : Instance m) (st : σ) (p : Bool)
    (i : Fin m.ignored.length) (v : (m.ignored.get i).type.Value) :
    (setIgnored ctx i v).Ends inst st p (.ok (inst.ignored.get i))
      { inst with ignored := inst.ignored.set i v } st :=
  Method.ends_self.bind ((Method.ends_lift (Context.ends_replace ctx _ _ _) _).bind
    ((Method.ends_setIgnored _).bind (Method.Ends.pure _ _ _ _)))

/-! ## Every operation takes a course -/

theorem exists_course (store : ctx.store.Atomic) (op : Op m) (inst : Instance m) (st : σ)
    (p : Bool) : ∃ result inst' st', Course store inst st p op result inst'.slots st' ∧
      (op.run ctx).Ends inst st p result inst' st' := by
  cases op with
  | get i =>
    have haccess : Action.Ends (ctx.access (m.field (m.schema.fields.get i).label)) st p (.ok ())
      st := Context.ends_access ctx _
    obtain ⟨st', hkept, ⟨r, hworks, h⟩ | ⟨e, hempty, hfailed, h⟩⟩ :=
      exists_populate store inst st p "first access"
    · exact ⟨_, _, st', .get hworks hkept,
        (Method.ends_lift haccess _).bind (h.bind (Method.Ends.pure _ _ _ _))⟩
    · refine ⟨_, inst, st', ?_, (Method.ends_lift haccess _).bind h.bind_error⟩
      rw [hempty]
      exact .unloaded trivial hempty hfailed hkept
  | set i v =>
    obtain ⟨st', hkept, ⟨r, hworks, h⟩ | ⟨e, hempty, hfailed, h⟩⟩ :=
      exists_populate store inst st p "first write"
    · obtain ⟨outcome, st'', hwritten, hcommit⟩ := Context.exists_commit store
        (m.field (m.schema.fields.get i).label) r i v st' p
      refine ⟨outcome, { inst with slots := some (Context.committed r i v outcome) }, st'',
        .set hworks (hwritten.of_bytes_eq hkept), ?_⟩
      refine h.bind ((Method.ends_lift hcommit _).bind ((Method.ends_setSlots _).bind ?_))
      cases outcome with
      | ok u => exact Method.Ends.pure _ _ _ _
      | error e => exact Method.Ends.throw _ _ _ _
    · refine ⟨_, inst, st', ?_, h.bind_error⟩
      rw [hempty]
      exact .unloaded trivial hempty hfailed hkept
  | getIgnored i => exact ⟨_, inst, st, .getIgnored rfl, ends_getIgnored ctx inst st p i⟩
  | setIgnored i v =>
    exact ⟨_, { inst with ignored := inst.ignored.set i v }, st, .setIgnored rfl,
      ends_setIgnored ctx inst st p i v⟩
  | save =>
    obtain ⟨st', hkept, ⟨r, hworks, h⟩ | ⟨e, hempty, hfailed, h⟩⟩ :=
      exists_populate store inst st p "first access"
    · obtain ⟨outcome, st'', hwritten, hsave⟩ := Context.exists_save store m.schema r st' p
      exact ⟨outcome, { inst with slots := some r }, st'',
        .save hworks (hwritten.of_bytes_eq hkept), h.bind (Method.ends_lift hsave _)⟩
    · refine ⟨_, inst, st', ?_, h.bind_error⟩
      rw [hempty]
      exact .unloaded trivial hempty hfailed hkept
  | reload =>
    obtain ⟨st', hkept, hload⟩ := Context.exists_load store m.schema st p
    cases hf : ctx.fetch m.schema st p with
    | ok r =>
      rw [hf] at hload
      exact ⟨_, { inst with slots := some r }, st', .reload hf hkept,
        (Method.ends_lift hload _).bind ((Method.ends_setSlots _).bind (Method.Ends.pure _ _ _ _))⟩
    | error e =>
      rw [hf] at hload
      exact ⟨_, inst, st', .notReloaded hf hkept, (Method.ends_lift hload _).bind_error⟩
  | encode =>
    obtain ⟨st', hkept, ⟨r, hworks, h⟩ | ⟨e, hempty, hfailed, h⟩⟩ :=
      exists_populate store inst st p "first access"
    · exact ⟨_, { inst with slots := some r }, st', .encode hworks hkept,
        h.bind (Method.ends_lift (Action.ends_ofEncode _) _)⟩
    · refine ⟨_, inst, st', ?_, h.bind_error⟩
      rw [hempty]
      exact .unloaded trivial hempty hfailed hkept

/-- Every operation takes a course, and leaves the gate as it is. -/
theorem course (store : ctx.store.Atomic) (op : Op m) (w : Instance m × Runtime σ) :
    Course store w.1 w.2.store w.2.poisoned op (op.run ctx w).1 (op.run ctx w).2.1.slots
        (op.run ctx w).2.2.store ∧
      (op.run ctx w).2.2.poisoned = w.2.poisoned := by
  obtain ⟨result, inst', st', hcourse, h⟩ := exists_course store op w.1 w.2.store w.2.poisoned
  obtain ⟨hr, hi, hs, hgate⟩ := h w.2 rfl rfl
  refine ⟨?_, hgate⟩
  rw [hr, hi, hs]
  exact hcourse

end Courses

/-! ## Ways to an instance -/

/-- How an instance comes about. -/
inductive Origin (m : Model)
  /-- Its record is new and is written at once. -/
  | created (r : m.schema.Record) (ignored : IgnoredValues m.ignored)
  /-- It loads its record on first use. -/
  | opened (ignored : IgnoredValues m.ignored)
  /-- Its record is the stored one. -/
  | loaded (ignored : IgnoredValues m.ignored)
  /-- Its record is that of a container. -/
  | decoded (c : Container) (ignored : IgnoredValues m.ignored)

/-- Makes the instance. -/
def Origin.build (ctx : Context σ) : Origin m → Action σ (Instance m)
  | created r ignored => create ctx r ignored
  | opened ignored => pure (unloaded ignored)
  | loaded ignored => ofStore ctx ignored
  | decoded c ignored => Action.ofDecode (ofContainer c ignored)

/-- What making an instance can come to. The indices are the origin, the slots of the instance, and
    the state of the store afterwards. -/
inductive Origin.Course {ctx : Context σ} (store : ctx.store.Atomic) (st : σ) (p : Bool) :
    Origin m → Except Failure (Option m.schema.Record) → σ → Prop
  | created {r : m.schema.Record} {ignored : IgnoredValues m.ignored} {b : List UInt8} {st' : σ}
    (encoded : m.schema.toBytes r = .ok b) (stored : store.bytes st' = some b) :
    Course store st p (.created r ignored) (.ok (some r)) st'
  | notCreated {r : m.schema.Record} {ignored : IgnoredValues m.ignored} {e : Failure} {st' : σ}
    (kept : store.bytes st' = store.bytes st) :
    Course store st p (.created r ignored) (.error e) st'
  | opened {ignored : IgnoredValues m.ignored} :
    Course store st p (.opened ignored) (.ok none) st
  | loaded {ignored : IgnoredValues m.ignored} {r : m.schema.Record} {st' : σ}
    (fetched : ctx.fetch m.schema st p = .ok r) (kept : store.bytes st' = store.bytes st) :
    Course store st p (.loaded ignored) (.ok (some r)) st'
  | notLoaded {ignored : IgnoredValues m.ignored} {e : Failure} {st' : σ}
    (failed : ctx.fetch m.schema st p = .error e) (kept : store.bytes st' = store.bytes st) :
    Course store st p (.loaded ignored) (.error e) st'
  | decoded {c : Container} {ignored : IgnoredValues m.ignored} {r : m.schema.Record}
    (decoded : m.schema.ofContainer c = .ok r) :
    Course store st p (.decoded c ignored) (.ok (some r)) st
  | notDecoded {c : Container} {ignored : IgnoredValues m.ignored} {stop : Codec.Stop DecodeError}
    (failed : m.schema.ofContainer c = .error stop) :
    Course store st p (.decoded c ignored) (.error (.ofStop stop)) st

section Origins

variable {ctx : Context σ}

theorem Origin.exists_course (store : ctx.store.Atomic) (o : Origin m) (st : σ) (p : Bool) :
    ∃ result st', Origin.Course store st p o (result.map Instance.slots) st' ∧
      (o.build ctx).Ends st p result st' := by
  cases o with
  | created r ignored =>
    obtain ⟨outcome, st', hwritten, hsave⟩ := Context.exists_save store m.schema r st p
    cases hwritten with
    | accepted encoded stored =>
      exact ⟨.ok ⟨some r, ignored⟩, st', .created encoded stored,
        hsave.bind (Action.Ends.pure _ _ _)⟩
    | refused kept => exact ⟨.error _, st', .notCreated kept, hsave.bind_error⟩
  | opened ignored => exact ⟨_, st, .opened, Action.Ends.pure _ _ _⟩
  | loaded ignored =>
    obtain ⟨st', hkept, hload⟩ := Context.exists_load store m.schema st p
    cases hf : ctx.fetch m.schema st p with
    | ok r =>
      rw [hf] at hload
      exact ⟨.ok ⟨some r, ignored⟩, st', .loaded hf hkept, hload.bind (Action.Ends.pure _ _ _)⟩
    | error e =>
      rw [hf] at hload
      exact ⟨.error e, st', .notLoaded hf hkept, hload.bind_error⟩
  | decoded c ignored =>
    refine ⟨_, st, ?_, Action.ends_ofDecode _⟩
    unfold ofContainer
    cases hc : m.schema.ofContainer c with
    | ok r => exact .decoded hc
    | error stop => exact .notDecoded hc

/-- Every origin takes a course, and leaves the gate as it is. -/
theorem Origin.course (store : ctx.store.Atomic) (o : Origin m) (rt : Runtime σ) :
    Origin.Course store rt.store rt.poisoned o ((o.build ctx rt).1.map Instance.slots)
        (o.build ctx rt).2.store ∧
      (o.build ctx rt).2.poisoned = rt.poisoned := by
  obtain ⟨result, st', hcourse, h⟩ := o.exists_course store rt.store rt.poisoned
  obtain ⟨hr, hs, hgate⟩ := h rt rfl rfl
  refine ⟨?_, hgate⟩
  rw [hr, hs]
  exact hcourse

end Origins

/-! ## Settings in a store that may be made to fail -/

open Samples RecordStore

/-- A context over a store that may be made to fail. -/
def faultyContext : Context FaultyCell := ⟨.faulty "settings", .noop⟩

/-- The record of its store. -/
def faultyRecord : faultyContext.store.Atomic := faultyAtomic "settings"

/-- Nothing is stored, and nothing fails. -/
def emptyCell : Runtime FaultyCell := ⟨⟨none, []⟩, false, .withHistory 0, []⟩

/-- Writes fail from now on. -/
def refuseWrites (cell : FaultyCell) : FaultyCell :=
  cell.setFault .write (some (.ofKind .permissionDenied none))

/-- The first field of the settings. -/
abbrev number : Fin migratingSettings.schema.fields.length := ⟨0, by decide⟩

/-- New settings. -/
def newSettings : Origin migratingSettings := .created (7#64, "a", ()) ("", ())

end Instance

end KeyedRecords
