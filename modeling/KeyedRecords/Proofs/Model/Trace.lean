import KeyedRecords.Proofs.Model.Quiet
import KeyedRecords.Proofs.Model.Session

/-!
# What observers see

Which events a run emits, call by call. A read of a field emits one event, also when the record
then cannot be loaded. An assignment emits a pair of events each time that the value of the field
is exchanged, which is twice when the write back fails and the previous value is put back. Nothing
else emits anything.

Results:
* `Op.registrar_run`: what an operation of an instance emits.
* `Session.registrar_call`: what a call does to the registrar.
* `Session.observer_sees_trace`: every observer sees what is emitted from its registration on.
-/

namespace KeyedRecords

/-! ## The registrar -/

namespace Registrar

/-- Emits some events one after the other. -/
def emitAll (r : Registrar) (es : List Event) : Registrar := es.foldl emit r

@[simp] theorem emitAll_nil (r : Registrar) : r.emitAll [] = r := rfl

theorem emitAll_append (r : Registrar) (es es' : List Event) :
    r.emitAll (es ++ es') = (r.emitAll es).emitAll es' :=
  List.foldl_append

theorem observers_emitAll (r : Registrar) (es : List Event) :
    (r.emitAll es).observers = r.observers := by
  induction es generalizing r with
  | nil => rfl
  | cons e es ih => exact ih (r.emit e)

/-- The events that the `n`-th observer was called with, in order. -/
def seenBy (r : Registrar) (n : ℕ) : List Event := (r.calls.filter fun c => c.1 = n).map Prod.snd

/-- Every observer is called once for an event. -/
theorem seenBy_emit {r : Registrar} {n : ℕ} (hn : n < r.observers) (e : Event) :
    (r.emit e).seenBy n = r.seenBy n ++ [e] := by
  have honce : (List.range r.observers).filter (fun k => k = n) = [n] := by
    rw [List.filter_eq, List.count_eq_one_of_mem List.nodup_range (List.mem_range.mpr hn)]
    rfl
  simp only [seenBy, emit, List.filter_append, List.map_append, List.filter_map]
  change _ ++ (((List.range r.observers).filter (fun k => k = n)).map _).map _ = _
  rw [honce]
  rfl

theorem seenBy_emitAll {r : Registrar} {n : ℕ} (hn : n < r.observers) (es : List Event) :
    (r.emitAll es).seenBy n = r.seenBy n ++ es := by
  induction es generalizing r with
  | nil => exact (List.append_nil _).symm
  | cons e es ih =>
    change ((r.emit e).emitAll es).seenBy n = _
    rw [ih (r := r.emit e) hn, seenBy_emit hn, List.append_assoc]
    rfl

/-- Only observers that are registered were called. -/
def Proper (r : Registrar) : Prop := ∀ c ∈ r.calls, c.1 < r.observers

theorem Proper.emit {r : Registrar} (h : r.Proper) (e : Event) : (r.emit e).Proper := by
  intro c hc
  rcases List.mem_append.mp hc with hc | hc
  · exact h c hc
  · obtain ⟨k, hk, rfl⟩ := List.mem_map.mp hc
    exact List.mem_range.mp hk

theorem Proper.emitAll {r : Registrar} (h : r.Proper) (es : List Event) : (r.emitAll es).Proper := by
  induction es generalizing r with
  | nil => exact h
  | cons e es ih => exact ih (h.emit e)

theorem Proper.observe {r : Registrar} (h : r.Proper) : r.observe.Proper :=
  fun c hc => Nat.lt_succ_of_lt (h c hc)

/-- A new observer has seen nothing. -/
theorem Proper.seenBy_observe {r : Registrar} (h : r.Proper) :
    r.observe.seenBy r.observers = [] := by
  have hnone : r.calls.filter (fun c => c.1 = r.observers) = [] := by
    refine List.filter_eq_nil_iff.mpr fun c hc => ?_
    simpa using (h c hc).ne
  exact congrArg (List.map Prod.snd) hnone

end Registrar

/-! ## Actions that emit -/

namespace Action

variable {σ α β : Type}

/-- The action succeeds and emits exactly these events. -/
def Emits (a : Action σ α) (es : List Event) : Prop :=
  ∀ rt : Runtime σ, (∃ v, (a rt).1 = .ok v) ∧ (a rt).2.registrar = rt.registrar.emitAll es

theorem Emits.pure (v : α) : Emits (pure v : Action σ α) [] := fun _ => ⟨⟨v, rfl⟩, rfl⟩

theorem Emits.bind {a : Action σ α} {f : α → Action σ β} {es es' : List Event} (ha : Emits a es)
    (hf : ∀ v, Emits (f v) es') : Emits (a >>= f) (es ++ es') := by
  intro rt
  obtain ⟨⟨v, hv⟩, hr⟩ := ha rt
  obtain ⟨hv', hr'⟩ := hf v (a rt).2
  rw [bind_apply, hv, Registrar.emitAll_append, ← hr]
  exact ⟨hv', hr'⟩

theorem emits_log (level : LogLevel) (text : String) : Emits (log level text : Action σ Unit) [] :=
  fun _ => ⟨⟨(), rfl⟩, rfl⟩

theorem emits_get : Emits (get : Action σ (Runtime σ)) [] := fun rt => ⟨⟨rt, rfl⟩, rfl⟩

theorem log_apply (level : LogLevel) (text : String) (rt : Runtime σ) :
    log level text rt = (.ok (), { rt with log := rt.log ++ [⟨level, text⟩] }) := rfl

theorem attempt_apply (a : Action σ α) (rt : Runtime σ) :
    a.attempt rt = (.ok (a rt).1, (a rt).2) := rfl

end Action

/-! ## Contexts -/

/-- The events of one exchange of the value of a field. -/
def FieldId.exchange (field : FieldId) : List Event := [⟨.willMutate, field⟩, ⟨.didMutate, field⟩]

/-- The events of an assignment that is written back, or undone. -/
def FieldId.assignment {ε α : Type} (field : FieldId) : Except ε α → List Event
  | .ok _ => field.exchange
  | .error _ => field.exchange ++ field.exchange

/-- Those of some events that the sink forwards to the registrar: all or none. -/
def Sink.heard (s : Sink) (es : List Event) : List Event := if s.forwards then es else []

theorem Sink.heard_append (s : Sink) (es es' : List Event) :
    s.heard (es ++ es') = s.heard es ++ s.heard es' := by
  unfold heard
  split_ifs <;> rfl

@[simp] theorem Sink.heard_nil (s : Sink) : s.heard [] = [] := by
  unfold heard
  split_ifs <;> rfl

namespace Context

open KeyedRecords.Action

variable {σ : Type} (ctx : Context σ)

theorem emits_notify (kind : EventKind) (field : FieldId) :
    Emits (ctx.notify kind field) (ctx.sink.heard [⟨kind, field⟩]) := by
  unfold notify Sink.heard
  split_ifs
  · exact fun rt => ⟨⟨(), rfl⟩, rfl⟩
  · exact .pure ()

theorem emits_access (field : FieldId) :
    Emits (ctx.access field) (ctx.sink.heard [⟨.access, field⟩]) :=
  (emits_log _ _).bind fun _ => ctx.emits_notify .access field

/-- An exchange is announced and reported, however often the sink runs it. -/
theorem emits_replace {α : Type} (field : FieldId) (slot value : α) :
    Emits (ctx.replace field slot value) (ctx.sink.heard field.exchange) := by
  have h := (ctx.emits_notify .willMutate field).bind fun _ => emits_get.bind fun rt =>
    (ctx.emits_notify .didMutate field).bind fun _ =>
      Emits.pure (σ := σ)
        (let x := (Nat.repeat Exchange.run (ctx.sink.runs rt.log field) ⟨slot, value, false⟩).run
        (x.slot, x.value))
  simp only [List.nil_append, List.append_nil, ← Sink.heard_append] at h
  exact (emits_log _ _).bind fun _ => h

theorem replace_fst {α : Type} (field : FieldId) (slot value : α) (rt : Runtime σ) :
    (ctx.replace field slot value rt).1 = .ok (value, slot) :=
  (ends_replace ctx field slot value rt rfl rfl).1

theorem registrar_replace {α : Type} (field : FieldId) (slot value : α) (rt : Runtime σ) :
    (ctx.replace field slot value rt).2.registrar =
      rt.registrar.emitAll (ctx.sink.heard field.exchange) :=
  (ctx.emits_replace field slot value rt).2

/-- An assignment that is undone is reported twice. -/
theorem exists_commit_registrar (s : RecordSchema) (field : FieldId) (r : s.Record)
    (i : Fin s.fields.length) (v : (s.fields.get i).type.Value) (rt : Runtime σ) :
    ∃ r' outcome, (ctx.commit s field r i v rt).1 = .ok (r', outcome) ∧
      (ctx.commit s field r i v rt).2.registrar =
        rt.registrar.emitAll (ctx.sink.heard (field.assignment outcome)) := by
  have hsilent := (ctx.quiet_save s (r.set i v)).registrar (ctx.replace field (r.get i) v rt).2
  rw [registrar_replace] at hsilent
  unfold commit
  simp only [bind_apply, replace_fst, attempt_apply]
  cases (ctx.save s (r.set i v) (ctx.replace field (r.get i) v rt).2).1 with
  | ok u => exact ⟨_, .ok (), rfl, hsilent⟩
  | error e =>
    dsimp only
    simp only [bind_apply, log_apply, replace_fst]
    refine ⟨_, .error e, rfl, ?_⟩
    simp only [FieldId.assignment, Sink.heard_append, Registrar.emitAll_append]
    rw [← hsilent]
    exact registrar_replace ctx _ _ _ _

end Context

/-! ## Operations of an instance -/

namespace Method

open KeyedRecords.Action

variable {m : Model} {σ α β : Type}

/-- The method emits nothing, whether it succeeds or not. -/
def Silent (a : Method m σ α) : Prop :=
  ∀ st : Instance m × Runtime σ, (a st).2.2.registrar = st.2.registrar

theorem Silent.pure (v : α) : Silent (pure v : Method m σ α) := fun _ => rfl

theorem Silent.bind {a : Method m σ α} {f : α → Method m σ β} (ha : Silent a)
    (hf : ∀ v, Silent (f v)) : Silent (a >>= f) := by
  intro st
  rw [bind_apply]
  cases hv : (a st).1 with
  | ok v => exact (hf v _).trans (ha st)
  | error e => exact ha st

theorem silent_lift {a : Action σ α} (ha : a.Quiet) : Silent (lift a : Method m σ α) :=
  fun st => ha.registrar st.2

theorem silent_self : Silent (self : Method m σ (Instance m)) := fun _ => rfl

theorem silent_setSlots (slots : Option m.schema.Record) :
    Silent (setSlots slots : Method m σ Unit) := fun _ => rfl

theorem silent_setIgnored (ignored : IgnoredValues m.ignored) :
    Silent (setIgnored ignored : Method m σ Unit) := fun _ => rfl

theorem lift_apply (a : Action σ α) (st : Instance m × Runtime σ) :
    lift a st = ((a st.2).1, (st.1, (a st.2).2)) := rfl

theorem setSlots_apply (slots : Option m.schema.Record) (st : Instance m × Runtime σ) :
    setSlots slots st = (.ok (), ({ st.1 with slots }, st.2)) := rfl

theorem self_bind_apply (f : Instance m → Method m σ β) (inst : Instance m) (rt : Runtime σ) :
    (self >>= f) (inst, rt) = f inst (inst, rt) := rfl

/-- What is done after an action that emits adds nothing to its events. -/
theorem registrar_lift_bind {a : Action σ α} {f : α → Method m σ β} {es : List Event}
    (ha : a.Emits es) (hf : ∀ v, Silent (f v)) (st : Instance m × Runtime σ) :
    ((lift a >>= f) st).2.2.registrar = st.2.registrar.emitAll es := by
  obtain ⟨⟨v, hv⟩, hr⟩ := ha st.2
  rw [bind_apply, lift_apply, hv, ← hr]
  exact hf v (st.1, (a st.2).2)

end Method

namespace Instance

open KeyedRecords.Action

variable {m : Model} {σ : Type} (ctx : Context σ)

/-- The record that an operation works on: the one in the slots, or else the one that a load
    gives. -/
def record (inst : Instance m) (rt : Runtime σ) : Except Failure m.schema.Record :=
  match inst.slots with
  | some r => .ok r
  | none => (ctx.load m.schema rt).1

theorem populate_fst (occasion : String) (inst : Instance m) (rt : Runtime σ) :
    (populate ctx occasion (inst, rt)).1 = inst.record ctx rt := by
  unfold record
  cases hslots : inst.slots with
  | some r => exact (ends_populate_loaded hslots occasion rt rfl rfl).1
  | none =>
    dsimp only
    rw [Context.load_eq_fetch]
    cases hf : ctx.fetch m.schema rt.store rt.poisoned with
    | ok r => exact (ends_populate_unloaded hslots hf occasion rt rfl rfl).1
    | error e => exact (ends_populate_failed hslots hf occasion rt rfl rfl).1

theorem silent_populate (occasion : String) : (populate ctx occasion : Method m σ _).Silent := by
  refine Method.silent_self.bind fun inst => ?_
  cases inst.slots with
  | some r => exact .pure r
  | none =>
    exact (Method.silent_lift (quiet_log _ _)).bind fun _ =>
      (Method.silent_lift (ctx.quiet_load _)).bind fun _ =>
        (Method.silent_setSlots _).bind fun _ => .pure _

/-- The events of an operation, as they are when the sink forwards them: one for a read of a
    field, whether or not the record can be loaded; one exchange for an assignment of an ignored
    field; for an assignment of a persisted field none if there is no record to assign to, one
    exchange if it is written back and two if it is not; none for any other operation. -/
def Op.events (inst : Instance m) (rt : Runtime σ) : Op m → List Event
  | get i => [⟨.access, m.field (m.schema.fields.get i).label⟩]
  | getIgnored i => [⟨.access, m.field (m.ignored.get i).label⟩]
  | setIgnored i _ => (m.field (m.ignored.get i).label).exchange
  | set i v =>
    match inst.record ctx rt with
    | .error _ => []
    | .ok _ => (m.field (m.schema.fields.get i).label).assignment (Instance.set ctx i v (inst, rt)).1
  | save | reload | encode => []

theorem registrar_set (i : Fin m.schema.fields.length) (v : (m.schema.fields.get i).type.Value)
    (inst : Instance m) (rt : Runtime σ) :
    (Instance.set ctx i v (inst, rt)).2.2.registrar =
      rt.registrar.emitAll (ctx.sink.heard (Op.events ctx inst rt (.set i v))) := by
  have hpopulate := populate_fst ctx "first write" inst rt
  have hsilent := silent_populate ctx "first write" (inst, rt)
  unfold Op.events
  cases hrecord : inst.record ctx rt with
  | error e =>
    rw [hrecord] at hpopulate
    simp only [Instance.set, recordForWrite, Method.bind_apply, hpopulate, hsilent,
      Sink.heard_nil, Registrar.emitAll_nil]
  | ok r =>
    rw [hrecord] at hpopulate
    obtain ⟨r', outcome, hcommit, hregistrar⟩ := ctx.exists_commit_registrar m.schema
      (m.field (m.schema.fields.get i).label) r i v (populate ctx "first write" (inst, rt)).2.2
    rw [hsilent] at hregistrar
    simp only [Instance.set, recordForWrite, Method.bind_apply, Method.lift_apply,
      Method.setSlots_apply, hpopulate, hcommit]
    cases outcome with
    | ok u => exact hregistrar
    | error e => exact hregistrar

theorem registrar_setIgnored (i : Fin m.ignored.length) (v : (m.ignored.get i).type.Value)
    (inst : Instance m) (rt : Runtime σ) :
    (Instance.setIgnored ctx i v (inst, rt)).2.2.registrar =
      rt.registrar.emitAll (ctx.sink.heard (m.field (m.ignored.get i).label).exchange) := by
  unfold Instance.setIgnored
  rw [Method.self_bind_apply]
  exact Method.registrar_lift_bind (ctx.emits_replace _ _ v)
    (fun _ => (Method.silent_setIgnored _).bind fun _ => .pure _) (inst, rt)

theorem Op.registrar_run (op : Op m) (inst : Instance m) (rt : Runtime σ) :
    (op.run ctx (inst, rt)).2.2.registrar =
      rt.registrar.emitAll (ctx.sink.heard (op.events ctx inst rt)) := by
  have hrecord (occasion : String) := silent_populate (m := m) ctx occasion
  cases op with
  | get i =>
    exact Method.registrar_lift_bind (ctx.emits_access _)
      (fun _ => (hrecord "first access").bind fun _ => .pure _) (inst, rt)
  | set i v => exact registrar_set ctx i v inst rt
  | getIgnored i =>
    exact Method.registrar_lift_bind (ctx.emits_access _)
      (fun _ => Method.silent_self.bind fun _ => .pure _) (inst, rt)
  | setIgnored i v => exact registrar_setIgnored ctx i v inst rt
  | save =>
    rw [Op.events, Sink.heard_nil]
    exact ((hrecord "first access").bind fun _ => Method.silent_lift (ctx.quiet_save _ _))
      (inst, rt)
  | reload =>
    rw [Op.events, Sink.heard_nil]
    exact ((Method.silent_lift (ctx.quiet_load _)).bind fun _ =>
      (Method.silent_setSlots _).bind fun _ => .pure _) (inst, rt)
  | encode =>
    rw [Op.events, Sink.heard_nil]
    exact ((hrecord "first access").bind fun _ => Method.silent_lift (quiet_ofEncode _))
      (inst, rt)

/-! ### Construction -/

theorem quiet_build (o : Origin m) : Quiet (o.build ctx) := by
  cases o with
  | created r ignored => exact (ctx.quiet_save _ _).bind fun _ => .pure _
  | opened ignored => exact .pure _
  | loaded ignored => exact (ctx.quiet_load _).bind fun _ => .pure _
  | decoded c ignored => exact quiet_ofDecode _

end Instance

/-! ## Requests -/

namespace Request

open KeyedRecords.Action

variable {σ : Type}

/-- The events of a request that came to something, as they are when the sink forwards them: only
    an assignment has any. -/
def events : (q : Request) → Except Failure q.Result → List Event
  | commit _ field _ _ _, .ok (_, outcome) => field.assignment outcome
  | _, _ => []

theorem registrar_run (ctx : Context σ) (q : Request) (rt : Runtime σ) :
    (q.run ctx rt).2.registrar =
      rt.registrar.emitAll (ctx.sink.heard (q.events (q.run ctx rt).1)) := by
  have hquiet {q : Request} (h : Quiet (q.run ctx)) (hevents : ∀ result, q.events result = []) :
      (q.run ctx rt).2.registrar =
        rt.registrar.emitAll (ctx.sink.heard (q.events (q.run ctx rt).1)) := by
    rw [hevents, Sink.heard_nil]
    exact h.registrar rt
  cases q with
  | isPersisted => exact hquiet ctx.quiet_isPersisted fun _ => rfl
  | readContainer => exact hquiet ctx.quiet_readContainer fun _ => rfl
  | load s => exact hquiet (ctx.quiet_load s) fun _ => rfl
  | save s r => exact hquiet (ctx.quiet_save s r) fun _ => rfl
  | commit s field r i v =>
    obtain ⟨r', outcome, hv, hr⟩ := ctx.exists_commit_registrar s field r i v rt
    simp only [run, hv, hr, events]
  | delete => exact hquiet ctx.quiet_delete fun _ => rfl
  | shouldMigrate model s => exact hquiet (ctx.quiet_shouldMigrate model s) fun _ => rfl
  | migrate model s => exact hquiet (ctx.quiet_migrate model s) fun _ => rfl

end Request

/-! ## Sessions -/

namespace Session

variable {ι : Type} [DecidableEq ι] {models : ι → Model} {σ : Type} (rs : RecordStore σ)

/-- The events of a call that reach the registrar. -/
def events (w : Session models σ) : Call models σ → List Event
  | .use i op =>
    match w.members i with
    | none => []
    | some mem => mem.sink.heard (op.events (rs.context mem.sink) mem.inst w.shared)
  | .ask sink q => sink.heard (q.events (w.ask rs sink q).1)
  | .make _ _ _ | .observe | .drain | .poison | .outside _ => []

/-- What a run emits: the events of its calls, one call after the other. -/
def trace : Session models σ → List (Call models σ) → List Event
  | _, [] => []
  | w, c :: calls => w.events rs c ++ trace (w.call rs c).2 calls

theorem trace_append (w : Session models σ) (before later : List (Call models σ)) :
    w.trace rs (before ++ later) = w.trace rs before ++ (w.after rs before).trace rs later := by
  induction before generalizing w with
  | nil => rfl
  | cons c before ih =>
    rw [List.cons_append, trace, ih, ← List.append_assoc]
    rfl

/-- What a call does to the registrar beside emitting events. -/
def Call.tune (r : Registrar) : Call models σ → Registrar
  | .observe => r.observe
  | .drain => r.drain.2
  | .make _ _ _ | .use _ _ | .ask _ _ | .poison | .outside _ => r

theorem registrar_call (w : Session models σ) (c : Call models σ) :
    (w.call rs c).2.shared.registrar = c.tune (w.shared.registrar.emitAll (w.events rs c)) := by
  cases c with
  | make i sink o =>
    have hregistrar := (Instance.quiet_build (rs.context sink) o).registrar w.shared
    simp only [call, make, events, Call.tune, Registrar.emitAll_nil]
    cases w.members i with
    | some mem => rfl
    | none =>
      dsimp only
      cases (o.build (rs.context sink) w.shared).1 with
      | ok inst => exact hregistrar
      | error e => exact hregistrar
  | use i op =>
    simp only [call, use, events, Call.tune]
    cases w.members i with
    | none => rfl
    | some mem => exact op.registrar_run (rs.context mem.sink) mem.inst w.shared
  | ask sink q => exact q.registrar_run (rs.context sink) w.shared
  | observe => rfl
  | drain => rfl
  | poison => rfl
  | outside change => rfl

/-! ### Observers -/

theorem proper_call {w : Session models σ} (h : w.shared.registrar.Proper) (c : Call models σ) :
    (w.call rs c).2.shared.registrar.Proper := by
  rw [registrar_call]
  have hemitted := h.emitAll (w.events rs c)
  cases c with
  | observe => exact hemitted.observe
  | drain | make _ _ _ | use _ _ | ask _ _ | poison | outside _ => exact hemitted

theorem proper_after {w : Session models σ} (h : w.shared.registrar.Proper)
    (calls : List (Call models σ)) : (w.after rs calls).shared.registrar.Proper := by
  induction calls generalizing w with
  | nil => exact h
  | cons c calls ih => exact ih (proper_call rs h c)

theorem seenBy_call {w : Session models σ} {n : ℕ} (hn : n < w.shared.registrar.observers)
    (c : Call models σ) : (w.call rs c).2.shared.registrar.seenBy n =
        w.shared.registrar.seenBy n ++ w.events rs c ∧
      n < (w.call rs c).2.shared.registrar.observers := by
  rw [registrar_call, ← Registrar.seenBy_emitAll hn]
  have hobservers := Registrar.observers_emitAll w.shared.registrar (w.events rs c)
  rw [← hobservers] at hn
  cases c with
  | observe => exact ⟨rfl, Nat.lt_succ_of_lt hn⟩
  | drain | make _ _ _ | use _ _ | ask _ _ | poison | outside _ => exact ⟨rfl, hn⟩

/-- An observer sees all that is emitted while it is registered. -/
theorem seenBy_after {w : Session models σ} {n : ℕ} (hn : n < w.shared.registrar.observers)
    (calls : List (Call models σ)) : (w.after rs calls).shared.registrar.seenBy n =
      w.shared.registrar.seenBy n ++ w.trace rs calls := by
  induction calls generalizing w with
  | nil => exact (List.append_nil _).symm
  | cons c calls ih =>
    obtain ⟨hseen, hn'⟩ := seenBy_call rs hn c
    rw [after_cons, ih hn', hseen, List.append_assoc]
    rfl

/-- However a run goes, an observer that is registered in the course of it sees exactly what is
    emitted from then on, which is the rest of what the whole run emits. -/
theorem observer_sees_trace (st : σ) (poisoned : Bool) (limit : ℕ)
    (before later : List (Call models σ)) :
    let w : Session models σ := (start st poisoned limit).after rs before
    let observed := (w.call rs .observe).2
    (observed.after rs later).shared.registrar.seenBy w.shared.registrar.observers =
        observed.trace rs later ∧
      (start st poisoned limit).trace rs (before ++ .observe :: later) =
        (start st poisoned limit).trace rs before ++ observed.trace rs later := by
  intro w observed
  have hproper : w.shared.registrar.Proper :=
    proper_after rs (w := start st poisoned limit) (fun _ hc => absurd hc List.not_mem_nil) before
  refine ⟨?_, trace_append rs _ before (.observe :: later)⟩
  rw [seenBy_after rs (w := observed) (Nat.lt_succ_self _)]
  change w.shared.registrar.observe.seenBy _ ++ _ = _
  rw [hproper.seenBy_observe, List.nil_append]

open Samples RecordStore Instance in
/-- A number is read, and another one is refused by the store. -/
example : (start ⟨none, []⟩ false 0 : Session (fun _ : Unit => migratingSettings) FaultyCell).trace
    (faulty "settings") [.make () .registrar newSettings, .use () (.get number),
      .outside refuseWrites, .use () (.set number (8#64 : BitVec 64))] =
    [⟨.access, ⟨"Settings", "number"⟩⟩, ⟨.willMutate, ⟨"Settings", "number"⟩⟩,
      ⟨.didMutate, ⟨"Settings", "number"⟩⟩, ⟨.willMutate, ⟨"Settings", "number"⟩⟩,
      ⟨.didMutate, ⟨"Settings", "number"⟩⟩] := by
  decide +kernel

end Session

end KeyedRecords
