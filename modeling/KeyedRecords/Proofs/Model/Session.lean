import KeyedRecords.Proofs.Model.World

/-!
# Sessions on one handle

Instances of any models that share one handle, each under a name of its own, and what their
contexts may be asked for beside. `Session` is the instances and what they share, and
`Session.Call` is one thing that happens to them. A call gives all that the operation gives.

Nothing is known about the store: it may refuse, lose or make up whatever it likes.

Result:
* `after_append`: a session goes on where it was left.
-/

namespace KeyedRecords

/-! ## Requests -/

/-- What a context may be asked for, beside what its instances ask it for. -/
inductive Request
  | isPersisted
  | readContainer
  | load (s : RecordSchema)
  | save (s : RecordSchema) (r : s.Record)
  | commit (s : RecordSchema) (field : FieldId) (r : s.Record) (i : Fin s.fields.length)
    (value : (s.fields.get i).type.Value)
  | delete
  | shouldMigrate (model : String) (s : RecordSchema)
  | migrate (model : String) (s : RecordSchema)

namespace Request

/-- What a request gives when it succeeds. -/
abbrev Result : Request → Type
  | isPersisted => Bool
  | readContainer => Option Container
  | load s => s.Record
  | save _ _ => Unit
  | commit s _ _ _ _ => s.Record × Except Failure Unit
  | delete => Unit
  | shouldMigrate _ _ => Bool
  | migrate _ _ => MigrationOutcome

/-- A request as an action on the shared state. -/
def run {σ : Type} (ctx : Context σ) : (q : Request) → Action σ q.Result
  | isPersisted => ctx.isPersisted
  | readContainer => ctx.readContainer
  | load s => ctx.load s
  | save s r => ctx.save s r
  | commit s field r i value => ctx.commit s field r i value
  | delete => ctx.delete
  | shouldMigrate model s => ctx.shouldMigrate model s
  | migrate model s => ctx.migrate model s

end Request

/-! ## Sessions -/

/-- The instances that were made, by name, and what they share. The name of an instance tells its
    model. -/
structure Session {ι : Type} (models : ι → Model) (σ : Type) where
  members : (i : ι) → Option (Member (models i))
  shared : Runtime σ

namespace Session

variable {ι : Type} {models : ι → Model} {σ : Type}

/-- One thing that happens in a session. -/
inductive Call (models : ι → Model) (σ : Type)
  /-- An instance is made. -/
  | make (i : ι) (sink : Sink) (o : Instance.Origin (models i))
  /-- An instance is used. -/
  | use (i : ι) (op : Instance.Op (models i))
  /-- A context is asked for something. -/
  | ask (sink : Sink) (q : Request)
  /-- The registrar gets another observer. -/
  | observe
  /-- The kept events are taken from the registrar. -/
  | drain
  /-- A writer panics and leaves the gate poisoned. -/
  | poison
  /-- The store is changed past the gate. -/
  | outside (change : σ → σ)

/-- What a call gives when it succeeds. -/
abbrev Call.Result : Call models σ → Type
  | make _ _ _ => Unit
  | use _ op => op.Result
  | ask _ q => q.Result
  | observe => Unit
  | drain => List Event
  | poison => Unit
  | outside _ => Unit

/-- No instance was made yet, and the registrar keeps up to `limit` events. -/
def start (st : σ) (poisoned : Bool) (limit : ℕ) : Session models σ :=
  ⟨fun _ => none, ⟨st, poisoned, .withHistory limit, []⟩⟩

variable [DecidableEq ι]

/-- The session with an instance under a name. -/
def put (w : Session models σ) (i : ι) (mem : Member (models i)) (rt : Runtime σ) :
    Session models σ :=
  ⟨Function.update w.members i (some mem), rt⟩

@[simp] theorem put_members_self (w : Session models σ) (i : ι) (mem : Member (models i))
    (rt : Runtime σ) : (w.put i mem rt).members i = some mem :=
  Function.update_self i _ w.members

theorem put_members_of_ne (w : Session models σ) {i j : ι} (h : j ≠ i) (mem : Member (models i))
    (rt : Runtime σ) : (w.put i mem rt).members j = w.members j :=
  Function.update_of_ne h _ w.members

/-- Makes an instance. There is none of this name already. -/
def make (rs : RecordStore σ) (w : Session models σ) (i : ι) (sink : Sink)
    (o : Instance.Origin (models i)) : Option (Except Failure Unit) × Session models σ :=
  match w.members i with
  | some _ => (none, w)
  | none =>
    let reply := o.build (rs.context sink) w.shared
    match reply.1 with
    | .ok inst => (some (.ok ()), w.put i ⟨sink, inst⟩ reply.2)
    | .error e => (some (.error e), { w with shared := reply.2 })

/-- Uses the instance of a name. -/
def use (rs : RecordStore σ) (w : Session models σ) (i : ι) (op : Instance.Op (models i)) :
    Option (Except Failure op.Result) × Session models σ :=
  match w.members i with
  | none => (none, w)
  | some mem =>
    let reply := op.run (rs.context mem.sink) (mem.inst, w.shared)
    (some reply.1, w.put i { mem with inst := reply.2.1 } reply.2.2)

/-- Asks a context for something. -/
def ask (rs : RecordStore σ) (w : Session models σ) (sink : Sink) (q : Request) :
    Except Failure q.Result × Session models σ :=
  let reply := q.run (rs.context sink) w.shared
  (reply.1, { w with shared := reply.2 })

/-- What a call gives, and the session after it. A call on a name that is taken, or is not taken
    as the case may be, does not take place. -/
def call (rs : RecordStore σ) (w : Session models σ) :
    (c : Call models σ) → Option (Except Failure c.Result) × Session models σ
  | .make i sink o => w.make rs i sink o
  | .use i op => w.use rs i op
  | .ask sink q => (some (w.ask rs sink q).1, (w.ask rs sink q).2)
  | .observe =>
    (some (.ok ()), { w with shared := { w.shared with registrar := w.shared.registrar.observe } })
  | .drain =>
    let (events, registrar) := w.shared.registrar.drain
    (some (.ok events), { w with shared := { w.shared with registrar } })
  | .poison => (some (.ok ()), { w with shared := { w.shared with poisoned := true } })
  | .outside change =>
    (some (.ok ()), { w with shared := { w.shared with store := change w.shared.store } })

/-- The session after some calls. -/
def after (rs : RecordStore σ) (w : Session models σ) (calls : List (Call models σ)) :
    Session models σ :=
  calls.foldl (fun w c => (w.call rs c).2) w

variable {rs : RecordStore σ} {w : Session models σ}

@[simp] theorem after_cons (c : Call models σ) (calls : List (Call models σ)) :
    w.after rs (c :: calls) = (w.call rs c).2.after rs calls := rfl

theorem after_append (before calls : List (Call models σ)) :
    w.after rs (before ++ calls) = (w.after rs before).after rs calls :=
  List.foldl_append

end Session

end KeyedRecords
