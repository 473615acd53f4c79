import KeyedRecords.Proofs.Model.Operation

/-!
# Instances of one store

Any number of instances of one model over one store. `World` is the instances and what they share,
and `Call` is one thing that happens to them.

Result:
* `World.step`: what a call can come to.
-/

namespace KeyedRecords

/-- A context over a store. -/
def RecordStore.context {σ : Type} (rs : RecordStore σ) (sink : Sink) : Context σ := ⟨rs, sink⟩

/-- The store of the context is the store. -/
def RecordStore.Atomic.over {σ : Type} {rs : RecordStore σ} (store : rs.Atomic) (sink : Sink) :
    (rs.context sink).store.Atomic :=
  store

/-- An instance, and the sink that its accessors report to. -/
structure Member (m : Model) where
  sink : Sink
  inst : Instance m

/-- The instances that were made, and what they share. -/
structure World (m : Model) (σ : Type) where
  members : List (Member m)
  shared : Runtime σ

/-- One thing that happens to a world. -/
inductive Call (m : Model) (σ : Type)
  /-- An instance is made. -/
  | make (sink : Sink) (o : Instance.Origin m)
  /-- The `n`-th instance is used. -/
  | run (n : ℕ) (op : Instance.Op m)
  /-- The record is removed. -/
  | delete (sink : Sink)
  /-- Others change what is shared: faults come and go, the record is written or removed. -/
  | outside (change : Runtime σ → Runtime σ)

namespace World

variable {m : Model} {σ : Type}

/-- Makes an instance. -/
def make (rs : RecordStore σ) (w : World m σ) (sink : Sink) (o : Instance.Origin m) :
    Except Failure Unit × World m σ :=
  let reply := o.build (rs.context sink) w.shared
  match reply.1 with
  | .ok inst => (.ok (), ⟨w.members ++ [⟨sink, inst⟩], reply.2⟩)
  | .error e => (.error e, ⟨w.members, reply.2⟩)

/-- Uses the `n`-th instance. Nothing happens to an instance that was not made. -/
def run (rs : RecordStore σ) (w : World m σ) (n : ℕ) (op : Instance.Op m) :
    Except Failure Unit × World m σ :=
  match w.members[n]? with
  | none => (.ok (), w)
  | some ⟨sink, inst⟩ =>
    let reply := op.run (rs.context sink) (inst, w.shared)
    (reply.1.map fun _ => (), ⟨w.members.set n ⟨sink, reply.2.1⟩, reply.2.2⟩)

/-- Removes the record. -/
def delete (rs : RecordStore σ) (w : World m σ) (sink : Sink) : Except Failure Unit × World m σ :=
  let reply := (rs.context sink).delete w.shared
  (reply.1, ⟨w.members, reply.2⟩)

/-- Whether a call succeeds, and the world after it. -/
def call (rs : RecordStore σ) (w : World m σ) : Call m σ → Except Failure Unit × World m σ
  | .make sink o => w.make rs sink o
  | .run n op => w.run rs n op
  | .delete sink => w.delete rs sink
  | .outside change => (.ok (), ⟨w.members, change w.shared⟩)

/-- What a call can come to. The indices are the call, whether it succeeded, and the world
    after it. -/
inductive Step {rs : RecordStore σ} (store : rs.Atomic) (w : World m σ) :
    Call m σ → Except Failure Unit → World m σ → Prop
  | made {sink : Sink} {o : Instance.Origin m} {inst : Instance m} {rt : Runtime σ}
    (course : Instance.Origin.Course (store.over sink) w.shared.store w.shared.poisoned o
      (.ok inst.slots) rt.store)
    (gate : rt.poisoned = w.shared.poisoned) :
    Step store w (.make sink o) (.ok ()) ⟨w.members ++ [⟨sink, inst⟩], rt⟩
  | notMade {sink : Sink} {o : Instance.Origin m} {e : Failure} {rt : Runtime σ}
    (course : Instance.Origin.Course (store.over sink) w.shared.store w.shared.poisoned o
      (.error e) rt.store)
    (gate : rt.poisoned = w.shared.poisoned) :
    Step store w (.make sink o) (.error e) ⟨w.members, rt⟩
  | ran {n : ℕ} {op : Instance.Op m} {sink : Sink} {inst inst' : Instance m}
    {result : Except Failure op.Result} {rt : Runtime σ} (member : w.members[n]? = some ⟨sink, inst⟩)
    (course : Instance.Course (store.over sink) inst w.shared.store w.shared.poisoned op result
      inst'.slots rt.store)
    (gate : rt.poisoned = w.shared.poisoned) :
    Step store w (.run n op) (result.map fun _ => ()) ⟨w.members.set n ⟨sink, inst'⟩, rt⟩
  | absent {n : ℕ} {op : Instance.Op m} (member : w.members[n]? = none) :
    Step store w (.run n op) (.ok ()) w
  | deleted {sink : Sink} {rt : Runtime σ} (removed : store.bytes rt.store = none)
    (gate : rt.poisoned = w.shared.poisoned) :
    Step store w (.delete sink) (.ok ()) ⟨w.members, rt⟩
  | notDeleted {sink : Sink} {e : Failure} {rt : Runtime σ}
    (kept : store.bytes rt.store = store.bytes w.shared.store)
    (gate : rt.poisoned = w.shared.poisoned) :
    Step store w (.delete sink) (.error e) ⟨w.members, rt⟩
  | outside {change : Runtime σ → Runtime σ} :
    Step store w (.outside change) (.ok ()) ⟨w.members, change w.shared⟩

variable {rs : RecordStore σ}

theorem step_make (store : rs.Atomic) (w : World m σ) (sink : Sink) (o : Instance.Origin m) :
    Step store w (.make sink o) (w.make rs sink o).1 (w.make rs sink o).2 := by
  obtain ⟨hcourse, hgate⟩ := o.course (store.over sink) w.shared
  cases hresult : (o.build (rs.context sink) w.shared).1 with
  | ok inst =>
    rw [hresult] at hcourse
    simp only [make, hresult]
    exact .made hcourse hgate
  | error e =>
    rw [hresult] at hcourse
    simp only [make, hresult]
    exact .notMade hcourse hgate

theorem step_run (store : rs.Atomic) (w : World m σ) (n : ℕ) (op : Instance.Op m) :
    Step store w (.run n op) (w.run rs n op).1 (w.run rs n op).2 := by
  unfold run
  rcases hmember : w.members[n]? with _ | ⟨sink, inst⟩
  · exact .absent hmember
  · obtain ⟨hcourse, hgate⟩ := Instance.course (store.over sink) op (inst, w.shared)
    exact .ran hmember hcourse hgate

theorem step_delete (store : rs.Atomic) (w : World m σ) (sink : Sink) :
    Step store w (.delete sink) (w.delete rs sink).1 (w.delete rs sink).2 := by
  obtain ⟨outcome, st, hst, hends⟩ :=
    Context.exists_delete (store.over sink) w.shared.store w.shared.poisoned
  obtain ⟨hr, hs, hgate⟩ := hends w.shared rfl rfl
  subst hs
  simp only [delete, hr]
  rcases hst with ⟨rfl, hremoved⟩ | ⟨⟨e, rfl⟩, hkept⟩
  · exact .deleted hremoved hgate
  · exact .notDeleted hkept hgate

/-- Every call takes a step. -/
theorem step (store : rs.Atomic) (w : World m σ) (c : Call m σ) :
    Step store w c (w.call rs c).1 (w.call rs c).2 := by
  cases c with
  | make sink o => exact step_make store w sink o
  | run n op => exact step_run store w n op
  | delete sink => exact step_delete store w sink
  | outside change => exact .outside

end World

/-! ## Two instances of the settings -/

section Settings

open Samples RecordStore Instance

instance : DecidableEq migratingSettings.schema.Record :=
  inferInstanceAs (DecidableEq (BitVec 64 × String × Unit))

/-- One instance is made and another one loads its record. The first assigns a new number, and
    from then on writes are refused. -/
def settingsCalls : List (Call migratingSettings FaultyCell) :=
  [.make .noop newSettings, .make .registrar (.opened ("", ())), .run 1 (.get number),
    .run 0 (.set number (8#64 : BitVec 64)),
    .outside fun rt => { rt with store := refuseWrites rt.store }]

/-- The second instance assigns another number. -/
def secondAssignment : Call migratingSettings FaultyCell := .run 1 (.set number (9#64 : BitVec 64))

end Settings

end KeyedRecords
