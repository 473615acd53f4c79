import KeyedRecords.Proofs.Model.Migration
import KeyedRecords.Proofs.Model.Session

/-!
# A poisoned gate

Once the gate is poisoned, nothing reaches the store through it any more. Whatever is done, the
stored record stays what it is, every instance keeps the slots it has, and all that needs the
store fails. Only what is in memory can still be read, and only ignored fields can be assigned.

Results:
* `Request.ends_poisoned`, `Op.ends_poisoned`, `Origin.ends_poisoned`: what requests, operations
  and constructions come to.
* `Session.call_still`: a call leaves the store and all slots as they are.
* `Session.poisoned_frozen`: so does every run, and all that needs the store fails after it.
-/

namespace KeyedRecords

open KeyedRecords.Action

/-- Why a record cannot be written while the gate is poisoned. It is encoded before it gets to the
    gate. -/
def RecordSchema.refusal (s : RecordSchema) (r : s.Record) : Failure :=
  match s.toBytes r with
  | .error e => .encode e
  | .ok _ => .poisoned

variable {σ : Type} {ctx : Context σ} {st : σ}

/-! ## Requests -/

theorem Context.ends_save_poisoned (ctx : Context σ) (s : RecordSchema) (r : s.Record) (st : σ) :
    Ends (ctx.save s r) st true (.error (s.refusal r)) st := by
  unfold save RecordSchema.refusal
  cases s.toBytes r with
  | error e => exact (ends_ofEncode _).bind_error
  | ok bytes => exact (ends_ofEncode _).bind ends_passGate_poisoned.bind_error

/-- An assignment is undone. -/
theorem Context.ends_commit_poisoned (ctx : Context σ) (s : RecordSchema) (field : FieldId)
    (r : s.Record) (i : Fin s.fields.length) (v : (s.fields.get i).type.Value) (st : σ) :
    Ends (ctx.commit s field r i v) st true (.ok (r, .error (s.refusal (r.set i v)))) st := by
  unfold commit
  refine (ends_replace ctx _ _ _).bind ((ends_save_poisoned ctx s _ st).attempt.bind ?_)
  refine (ends_log _ _).bind ((ends_replace ctx _ _ _).bind ?_)
  dsimp only
  rw [Values.set_set_get]
  exact Ends.pure _ _ _

namespace Request

/-- Whether a request needs nothing but the store. -/
def Bare : Request → Prop
  | isPersisted | readContainer | load _ | delete | shouldMigrate _ _ | migrate _ _ => True
  | save _ _ | commit _ _ _ _ _ => False

/-- What a request comes to while the gate is poisoned. -/
def frozen : (q : Request) → Except Failure q.Result
  | save s r => .error (s.refusal r)
  | commit s _ r i v => .ok (r, .error (s.refusal (r.set i v)))
  | isPersisted | readContainer | load _ | delete | shouldMigrate _ _ | migrate _ _ =>
    .error .poisoned

theorem frozen_of_bare {q : Request} (h : q.Bare) : q.frozen = .error .poisoned := by
  cases q <;> first | rfl | exact h.elim

theorem ends_poisoned (ctx : Context σ) (q : Request) (st : σ) :
    Ends (q.run ctx) st true q.frozen st := by
  cases q with
  | isPersisted => exact ends_passGate_poisoned.bind_error
  | readContainer => exact ends_passGate_poisoned.bind_error
  | load s => exact Context.ends_fetch ctx s st true
  | save s r => exact Context.ends_save_poisoned ctx s r st
  | commit s field r i v => exact Context.ends_commit_poisoned ctx s field r i v st
  | delete => exact ends_passGate_poisoned.bind_error
  | shouldMigrate model s => exact Context.shouldMigrate_poisoned ctx model
  | migrate model s => exact Context.migrate_poisoned ctx model

end Request

/-! ## Operations of an instance -/

namespace Instance

variable {m : Model} {inst : Instance m}

/-- The record in the slots. There is no other to work on while the gate is poisoned. -/
def held (inst : Instance m) : Except Failure m.schema.Record :=
  match inst.slots with
  | some r => .ok r
  | none => .error .poisoned

theorem held_loaded {r : m.schema.Record} (h : inst.slots = some r) : inst.held = .ok r := by
  simp only [held, h]

theorem held_unloaded (h : inst.slots = none) : inst.held = .error .poisoned := by
  simp only [held, h]

theorem ends_populate_poisoned (ctx : Context σ) (inst : Instance m) (st : σ) (occasion : String) :
    (populate ctx occasion).Ends inst st true inst.held inst st := by
  cases h : inst.slots with
  | some r =>
    rw [held_loaded h]
    exact ends_populate_loaded h occasion
  | none =>
    rw [held_unloaded h]
    exact ends_populate_failed h rfl occasion

namespace Op

/-- What an operation comes to while the gate is poisoned. -/
def frozen (inst : Instance m) : (op : Op m) → Except Failure op.Result
  | get i => inst.held.map fun r => r.get i
  | set i v => inst.held.bind fun r => .error (m.schema.refusal (r.set i v))
  | getIgnored i => .ok (inst.ignored.get i)
  | setIgnored i _ => .ok (inst.ignored.get i)
  | save => inst.held.bind fun r => .error (m.schema.refusal r)
  | reload => .error .poisoned
  | encode => inst.held.bind fun r => (m.schema.toContainer r).mapError Failure.encode

/-- The instance after an operation while the gate is poisoned. -/
def settle (inst : Instance m) : Op m → Instance m
  | setIgnored i v => { inst with ignored := inst.ignored.set i v }
  | get _ | set _ _ | getIgnored _ | save | reload | encode => inst

@[simp] theorem settle_slots (inst : Instance m) (op : Op m) :
    (op.settle inst).slots = inst.slots := by
  cases op <;> rfl

theorem frozen_of_unloaded {op : Op m} (hop : op.populates) (h : inst.slots = none) :
    op.frozen inst = .error .poisoned := by
  cases op with
  | getIgnored _ | setIgnored _ _ | reload => exact hop.elim
  | get _ | set _ _ | save | encode => simp only [frozen, held_unloaded h]; rfl

theorem settle_of_populates {op : Op m} (hop : op.populates) : op.settle inst = inst := by
  cases op <;> first | rfl | exact hop.elim

/-- What is done with the record in the slots, if there is one. -/
theorem ends_populate_bind {β : Type} {f : m.schema.Record → Method m σ β}
    {g : m.schema.Record → Except Failure β} {occasion : String}
    (hf : ∀ r, inst.slots = some r → (f r).Ends inst st true (g r) inst st) :
    (populate ctx occasion >>= f).Ends inst st true (inst.held.bind g) inst st := by
  have hpopulate := ends_populate_poisoned ctx inst st occasion
  cases h : inst.slots with
  | some r =>
    rw [held_loaded h] at hpopulate ⊢
    exact hpopulate.bind (hf r h)
  | none =>
    rw [held_unloaded h] at hpopulate ⊢
    exact hpopulate.bind_error

theorem ends_poisoned (ctx : Context σ) (op : Op m) (inst : Instance m) (st : σ) :
    (op.run ctx).Ends inst st true (op.frozen inst) (op.settle inst) st := by
  cases op with
  | get i =>
    refine (Method.ends_lift (Context.ends_access ctx _) _).bind ?_
    exact ends_populate_bind fun r _ => Method.Ends.pure _ _ _ _
  | set i v =>
    refine ends_populate_bind fun r hr => ?_
    have hcommit := Context.ends_commit_poisoned ctx m.schema
      (m.field (m.schema.fields.get i).label) r i v st
    exact (Method.ends_lift hcommit _).bind
      ((Method.ends_setSlots_same hr).bind (Method.Ends.throw _ _ _ _))
  | getIgnored i => exact ends_getIgnored ctx inst st true i
  | setIgnored i v => exact ends_setIgnored ctx inst st true i v
  | save =>
    exact ends_populate_bind fun r _ =>
      Method.ends_lift (Context.ends_save_poisoned ctx m.schema r st) _
  | reload =>
    exact (Method.ends_lift (Context.ends_fetch ctx m.schema st true) _).bind_error
  | encode => exact ends_populate_bind fun r _ => Method.ends_lift (ends_ofEncode _) _

end Op

/-! ## Construction -/

/-- What making an instance comes to while the gate is poisoned. -/
def Origin.frozen : Origin m → Except Failure (Instance m)
  | created r _ => .error (m.schema.refusal r)
  | opened ignored => .ok (unloaded ignored)
  | loaded _ => .error .poisoned
  | decoded c ignored => (ofContainer c ignored).mapError Failure.ofStop

theorem Origin.ends_poisoned (ctx : Context σ) (o : Origin m) (st : σ) :
    Ends (o.build ctx) st true o.frozen st := by
  cases o with
  | created r ignored => exact (Context.ends_save_poisoned ctx m.schema r st).bind_error
  | opened ignored => exact Ends.pure _ _ _
  | loaded ignored => exact (Context.ends_fetch ctx m.schema st true).bind_error
  | decoded c ignored => exact ends_ofDecode _

end Instance

/-! ## Sessions -/

namespace IgnoredValues

theorem get_set_self : ∀ {fs : List TransientField} (vs : IgnoredValues fs) (i : Fin fs.length)
    (v : (fs.get i).type.Value), (vs.set i v).get i = v
  | _ :: _, (_, _), ⟨0, _⟩, _ => rfl
  | _ :: _, (_, vs), ⟨i + 1, h⟩, v => get_set_self vs ⟨i, Nat.lt_of_succ_lt_succ h⟩ v

end IgnoredValues

namespace Session

variable {ι : Type} {models : ι → Model} {rs : RecordStore σ} {w w' w'' : Session models σ}

/-- The gate is poisoned, and neither the store nor the slots of any instance have changed. -/
structure Still (w w' : Session models σ) : Prop where
  store : w'.shared.store = w.shared.store
  gate : w'.shared.poisoned = true
  slots : ∀ i mem, w.members i = some mem →
    ∃ mem', w'.members i = some mem' ∧ mem'.inst.slots = mem.inst.slots

theorem Still.refl (hp : w.shared.poisoned = true) : Still w w :=
  ⟨rfl, hp, fun _ mem h => ⟨mem, h, rfl⟩⟩

theorem Still.trans (h : Still w w') (h' : Still w' w'') : Still w w'' := by
  refine ⟨h'.store.trans h.store, h'.gate, fun i mem hmem => ?_⟩
  obtain ⟨mem', hmem', hslots⟩ := h.slots i mem hmem
  obtain ⟨mem'', hmem'', hslots'⟩ := h'.slots i mem' hmem'
  exact ⟨mem'', hmem'', hslots'.trans hslots⟩

/-- Whether a call keeps to the gate. -/
def Call.Gated : Call models σ → Prop
  | .outside _ => False
  | .make _ _ _ | .use _ _ | .ask _ _ | .observe | .drain | .poison => True

/-! ### One call -/

theorem ask_poisoned (rs : RecordStore σ) (hp : w.shared.poisoned = true) (sink : Sink)
    (q : Request) : (w.ask rs sink q).1 = q.frozen ∧ Still w (w.ask rs sink q).2 := by
  obtain ⟨hr, hs, hgate⟩ := q.ends_poisoned (rs.context sink) w.shared.store w.shared rfl hp
  exact ⟨hr, hs, hgate, fun _ mem h => ⟨mem, h, rfl⟩⟩

variable [DecidableEq ι]

/-- The session after an instance was put under a name is the one before, if that keeps its
    slots and what it shares. -/
theorem still_put {i : ι} {mem : Member (models i)} {rt : Runtime σ}
    (hs : rt.store = w.shared.store) (hp : rt.poisoned = true)
    (hmem : ∀ old, w.members i = some old → mem.inst.slots = old.inst.slots) :
    Still w (w.put i mem rt) := by
  refine ⟨hs, hp, fun j old hold => ?_⟩
  by_cases hji : j = i
  · subst hji
    exact ⟨mem, put_members_self w j mem rt, hmem old hold⟩
  · exact ⟨old, (put_members_of_ne w hji mem rt).trans hold, rfl⟩

theorem use_poisoned (rs : RecordStore σ) (hp : w.shared.poisoned = true) {i : ι}
    {mem : Member (models i)} (hmem : w.members i = some mem) (op : Instance.Op (models i)) :
    (w.use rs i op).1 = some (op.frozen mem.inst) ∧
      (w.use rs i op).2.members i = some { mem with inst := op.settle mem.inst } ∧
      Still w (w.use rs i op).2 := by
  obtain ⟨hr, hi, hs, hgate⟩ :=
    op.ends_poisoned (rs.context mem.sink) mem.inst w.shared.store w.shared rfl hp
  simp only [use, hmem, hr, hi, put_members_self]
  refine ⟨trivial, trivial, still_put hs hgate fun old hold => ?_⟩
  rw [hmem] at hold
  cases hold
  exact op.settle_slots mem.inst

theorem make_poisoned (rs : RecordStore σ) (hp : w.shared.poisoned = true) {i : ι}
    (hfree : w.members i = none) (sink : Sink) (o : Instance.Origin (models i)) :
    (w.make rs i sink o).1 = some (o.frozen.map fun _ => ()) ∧
      (w.make rs i sink o).2.members i = o.frozen.toOption.map (Member.mk sink) ∧
      Still w (w.make rs i sink o).2 := by
  obtain ⟨hr, hs, hgate⟩ := o.ends_poisoned (rs.context sink) w.shared.store w.shared rfl hp
  have hnew : ∀ mem : Member (models i), ∀ old, w.members i = some old →
      mem.inst.slots = old.inst.slots := by
    intro mem old hold
    rw [hfree] at hold
    cases hold
  simp only [make, hfree, hr]
  cases o.frozen with
  | ok inst => exact ⟨rfl, put_members_self w i _ _, still_put hs hgate (hnew _)⟩
  | error e => exact ⟨rfl, hfree, hs, hgate, fun _ mem h => ⟨mem, h, rfl⟩⟩

/-- A call that keeps to a poisoned gate leaves the store and all slots as they are. -/
theorem call_still (rs : RecordStore σ) (hp : w.shared.poisoned = true) {c : Call models σ}
    (hc : c.Gated) : Still w (w.call rs c).2 := by
  cases c with
  | make i sink o =>
    cases hmem : w.members i with
    | none => exact (make_poisoned rs hp hmem sink o).2.2
    | some mem =>
      simp only [call, make, hmem]
      exact .refl hp
  | use i op =>
    cases hmem : w.members i with
    | none =>
      simp only [call, use, hmem]
      exact .refl hp
    | some mem => exact (use_poisoned rs hp hmem op).2.2
  | ask sink q => exact (ask_poisoned rs hp sink q).2
  | observe => exact ⟨rfl, hp, (Still.refl hp).slots⟩
  | drain => exact ⟨rfl, hp, (Still.refl hp).slots⟩
  | poison => exact ⟨rfl, rfl, (Still.refl hp).slots⟩
  | outside change => exact hc.elim

/-! ### Every run -/

theorem after_still (rs : RecordStore σ) (hp : w.shared.poisoned = true)
    {calls : List (Call models σ)} (hcalls : ∀ c ∈ calls, c.Gated) :
    Still w (w.after rs calls) := by
  induction calls generalizing w with
  | nil => exact .refl hp
  | cons c calls ih =>
    have hcall := call_still rs hp (hcalls c List.mem_cons_self)
    exact hcall.trans (ih hcall.gate fun c' hc' => hcalls c' (List.mem_cons_of_mem c hc'))

/-- What still comes of a call on a session: what needs the store fails, and what does not is as
    it ever was. -/
structure Frozen (rs : RecordStore σ) (w : Session models σ) : Prop where
  bare : ∀ sink (q : Request), q.Bare → (w.ask rs sink q).1 = .error .poisoned
  saveRecord : ∀ sink s r, (w.ask rs sink (.save s r)).1 = .error (s.refusal r)
  commit : ∀ sink s field r j v,
    (w.ask rs sink (.commit s field r j v)).1 = .ok (r, .error (s.refusal (r.set j v)))
  create : ∀ i sink r ignored, w.members i = none →
    (w.make rs i sink (.created r ignored)).1 = some (.error ((models i).schema.refusal r)) ∧
      (w.make rs i sink (.created r ignored)).2.members i = none
  load : ∀ i sink ignored, w.members i = none →
    (w.make rs i sink (.loaded ignored)).1 = some (.error .poisoned)
  reload : ∀ i mem, w.members i = some mem → (w.use rs i .reload).1 = some (.error .poisoned)
  unloaded : ∀ i mem (op : Instance.Op (models i)), w.members i = some mem →
    mem.inst.slots = none → op.populates →
    (w.use rs i op).1 = some (.error .poisoned) ∧ (w.use rs i op).2.members i = some mem
  get : ∀ i mem r j, w.members i = some mem → mem.inst.slots = some r →
    (w.use rs i (.get j)).1 = some (.ok (r.get j))
  set : ∀ i mem r j v, w.members i = some mem → mem.inst.slots = some r →
    (w.use rs i (.set j v)).1 = some (.error ((models i).schema.refusal (r.set j v))) ∧
      (w.use rs i (.set j v)).2.members i = some mem
  save : ∀ i mem r, w.members i = some mem → mem.inst.slots = some r →
    (w.use rs i .save).1 = some (.error ((models i).schema.refusal r))
  getIgnored : ∀ i mem j, w.members i = some mem →
    (w.use rs i (.getIgnored j)).1 = some (.ok (mem.inst.ignored.get j))
  setIgnored : ∀ i mem j v, w.members i = some mem →
    (w.use rs i (.setIgnored j v)).1 = some (.ok (mem.inst.ignored.get j)) ∧
      ((w.use rs i (.setIgnored j v)).2.use rs i (.getIgnored j)).1 = some (.ok v)

theorem frozen_of_poisoned (rs : RecordStore σ) (hp : w.shared.poisoned = true) :
    Frozen rs w where
  bare sink q hq := (ask_poisoned rs hp sink q).1.trans (Request.frozen_of_bare hq)
  saveRecord sink s r := (ask_poisoned rs hp sink (.save s r)).1
  commit sink s field r j v := (ask_poisoned rs hp sink (.commit s field r j v)).1
  create i sink r ignored hfree :=
    have h := make_poisoned rs hp hfree sink (.created r ignored)
    ⟨h.1, h.2.1⟩
  load i sink ignored hfree := (make_poisoned rs hp hfree sink (.loaded ignored)).1
  reload i mem hmem := (use_poisoned rs hp hmem .reload).1
  unloaded i mem op hmem hslots hop := by
    obtain ⟨hr, hafter, -⟩ := use_poisoned rs hp hmem op
    rw [Instance.Op.frozen_of_unloaded hop hslots] at hr
    rw [Instance.Op.settle_of_populates hop] at hafter
    exact ⟨hr, hafter⟩
  get i mem r j hmem hslots := by
    rw [(use_poisoned rs hp hmem (.get j)).1, Instance.Op.frozen, Instance.held_loaded hslots]
    rfl
  set i mem r j v hmem hslots := by
    obtain ⟨hr, hafter, -⟩ := use_poisoned rs hp hmem (.set j v)
    rw [hr, Instance.Op.frozen, Instance.held_loaded hslots]
    exact ⟨rfl, hafter⟩
  save i mem r hmem hslots := by
    rw [(use_poisoned rs hp hmem .save).1, Instance.Op.frozen, Instance.held_loaded hslots]
    rfl
  getIgnored i mem j hmem := (use_poisoned rs hp hmem (.getIgnored j)).1
  setIgnored i mem j v hmem := by
    obtain ⟨hr, hafter, hstill⟩ := use_poisoned rs hp hmem (.setIgnored j v)
    refine ⟨hr, ?_⟩
    rw [(use_poisoned rs hstill.gate hafter (.getIgnored j)).1]
    exact congrArg (fun v => some (Except.ok v)) (IgnoredValues.get_set_self _ j v)

/-- Once the gate is poisoned, no run that keeps to it changes what is stored, every instance keeps
    the record that it holds, and everything that needs the store fails from then on. -/
theorem poisoned_frozen (rs : RecordStore σ) {w : Session models σ}
    (hp : w.shared.poisoned = true) {calls : List (Call models σ)}
    (hcalls : ∀ c ∈ calls, c.Gated) :
    let w' := w.after rs calls
    w'.shared.store = w.shared.store ∧ w'.shared.poisoned = true ∧
    (∀ i mem r, w.members i = some mem → mem.inst.slots = some r →
      ∀ j, (w'.use rs i (.get j)).1 = some (.ok (r.get j))) ∧
    (∀ i mem, w.members i = some mem → mem.inst.slots = none →
      ∃ mem', w'.members i = some mem' ∧ mem'.inst.slots = none) ∧
    Frozen rs w' := by
  intro w'
  have hstill : Still w w' := after_still rs hp hcalls
  have hfrozen : Frozen rs w' := frozen_of_poisoned rs hstill.gate
  refine ⟨hstill.store, hstill.gate, ?_, ?_, hfrozen⟩
  · intro i mem r hmem hslots j
    obtain ⟨mem', hmem', heq⟩ := hstill.slots i mem hmem
    exact hfrozen.get i mem' r j hmem' (heq.trans hslots)
  · intro i mem hmem hslots
    obtain ⟨mem', hmem', heq⟩ := hstill.slots i mem hmem
    exact ⟨mem', hmem', heq.trans hslots⟩

/-! ### Settings whose gate is poisoned -/

section Settings

open Samples RecordStore Instance

/-- The record of the new settings. -/
def newRecord : migratingSettings.schema.Record := (7#64, "a", ())

/-- One instance of the settings holds the record that it wrote, another one has not loaded it yet
    when the gate is poisoned. -/
def poisonedSettings : Session (fun _ : Bool => migratingSettings) FaultyCell :=
  (start ⟨none, []⟩ false 0).after (faulty "settings")
    [.make true .noop newSettings, .make false .registrar (.opened ("", ())), .poison]

/-- Both instances are used, and the record is to be removed. -/
def lateCalls : List (Call (fun _ : Bool => migratingSettings) FaultyCell) :=
  [.use true (.set number (8#64 : BitVec 64)), .use false (.get number), .use true .reload,
    .ask .noop .delete, .observe]

/-- The first instance goes on to read the number that it wrote, and cannot assign another. -/
theorem poisoned_frozen_settings : ∃ mem : Member migratingSettings,
    poisonedSettings.members true = some mem ∧ mem.inst.slots = some newRecord ∧
    (let w := poisonedSettings.after (faulty "settings") lateCalls
    w.shared.store = poisonedSettings.shared.store ∧
      (w.use (faulty "settings") true (.get number)).1 = some (.ok (7#64 : BitVec 64)) ∧
      Frozen (faulty "settings") w) := by
  have hp : poisonedSettings.shared.poisoned = true := by decide +kernel
  have hcalls : ∀ c ∈ lateCalls, c.Gated := by simp [lateCalls, Call.Gated]
  have hslots : (poisonedSettings.members true).map
      (fun mem : Member migratingSettings => mem.inst.slots) = some (some newRecord) := by
    decide +kernel
  obtain ⟨mem, hmem, hslots⟩ := Option.map_eq_some_iff.mp hslots
  obtain ⟨hstore, -, hget, -, hfrozen⟩ := poisoned_frozen (faulty "settings") hp hcalls
  exact ⟨mem, hmem, hslots, hstore, hget true mem _ hmem hslots number, hfrozen⟩

end Settings

end Session

end KeyedRecords
