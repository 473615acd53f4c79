import KeyedRecords.Proofs.Model.Action
import KeyedRecords.Proofs.Record.Assigned
import KeyedRecords.Proofs.Store.Atomic

/-!
# Loading a record and writing it back

What the operations of a context come to over a store that may refuse any of them. A sink has no
part in it: an assignment takes place once, whatever the sink does with it.

Results:
* `exists_load`, `fetch_eq_ok`: a load gives the stored record and leaves it where it is.
* `exists_saving`: a save writes the record, or fails in one of three ways.
* `exists_save`: a save replaces the stored record, or fails and leaves it.
* `ends_replace`: an assignment gives the new value and the previous one.
* `ends_commit`, `exists_commit`: an assignment is written back, or undone.
-/

namespace KeyedRecords

namespace Action

variable {σ α : Type} {s s' : σ} {p : Bool}

theorem Ends.attempt {a : Action σ α} {result : Except Failure α} (ha : Ends a s p result s') :
    Ends a.attempt s p (.ok result) s' := by
  intro rt hs hp
  obtain ⟨hr, hs', hp'⟩ := ha rt hs hp
  exact ⟨congrArg Except.ok hr, hs', hp'⟩

theorem ends_ofEncode (r : Except EncodeError α) :
    Ends (ofEncode r) s p (r.mapError Failure.encode) s := by
  cases r with
  | ok v => exact Ends.pure v s p
  | error e => exact Ends.throw _ s p

end Action

namespace Context

open KeyedRecords.Action

variable {σ : Type} {ctx : Context σ} {s : RecordSchema} {st : σ} {p : Bool}

/-! ## Loading -/

/-- What a load gives, by the state of the store and whether the gate is poisoned. -/
def fetch (ctx : Context σ) (s : RecordSchema) (st : σ) (p : Bool) : Except Failure s.Record :=
  if p then .error .poisoned
  else
    match (ctx.store.read st).result with
    | .ok bytes => (s.ofBytes bytes).mapError Failure.ofStop
    | .error e => .error (.store e)

/-- The state that a load leaves the store in. A poisoned gate keeps it from being read. -/
def fetched (ctx : Context σ) (st : σ) (p : Bool) : σ := if p then st else (ctx.store.read st).state

theorem ends_fetch (ctx : Context σ) (s : RecordSchema) (st : σ) (p : Bool) :
    Ends (ctx.load s) st p (ctx.fetch s st p) (ctx.fetched st p) := by
  cases p with
  | true => exact ends_passGate_poisoned.bind_error
  | false =>
    unfold load fetch
    refine ends_passGate.bind ((ends_perform _).bind ?_)
    cases (ctx.store.read st).result with
    | ok bytes => exact (ends_ofStore _).bind ((ends_log _ _).bind (ends_ofDecode _))
    | error e => exact (ends_ofStore _).bind_error

theorem bytes_fetched (store : ctx.store.Atomic) (st : σ) (p : Bool) :
    store.bytes (ctx.fetched st p) = store.bytes st := by
  cases p with
  | true => rfl
  | false => exact store.bytes_read st

theorem exists_load (store : ctx.store.Atomic) (s : RecordSchema) (st : σ) (p : Bool) :
    ∃ st', store.bytes st' = store.bytes st ∧ Ends (ctx.load s) st p (ctx.fetch s st p) st' :=
  ⟨ctx.fetched st p, bytes_fetched store st p, ends_fetch ctx s st p⟩

theorem load_eq_fetch (ctx : Context σ) (s : RecordSchema) (rt : Runtime σ) :
    (ctx.load s rt).1 = ctx.fetch s rt.store rt.poisoned :=
  (ends_fetch ctx s rt.store rt.poisoned rt rfl rfl).1

/-- What a load gives is the stored record. -/
theorem fetch_eq_ok (store : ctx.store.Atomic) {r : s.Record} (h : ctx.fetch s st p = .ok r) :
    ∃ b, store.bytes st = some b ∧ s.ofBytes b = .ok r := by
  unfold fetch at h
  split_ifs at h
  cases hr : (ctx.store.read st).result with
  | error e => rw [hr] at h; cases h
  | ok b =>
    rw [hr] at h
    exact ⟨b, store.bytes_of_read hr, mapError_eq_ok_iff.mp h⟩

/-- A stored record is given unless the store or the gate keeps it from being read. -/
theorem fetch_of_stored (store : ctx.store.Atomic) {b : List UInt8} {r : s.Record}
    (hfault : store.fault st = none) (hb : store.bytes st = some b) (hr : s.ofBytes b = .ok r) :
    ctx.fetch s st false = .ok r := by
  simp only [fetch, Bool.false_eq_true, if_false, store.read_record hfault hb, hr,
    Except.mapError]

/-! ## Saving -/

/-- What a write of the record comes to: it replaces the stored one, or leaves it where it is. -/
inductive Written {store : RecordStore σ} (a : store.Atomic) (s : RecordSchema) (r : s.Record)
    (st st' : σ) : Except Failure Unit → Prop
  | accepted {b : List UInt8} (encoded : s.toBytes r = .ok b) (stored : a.bytes st' = some b) :
    Written a s r st st' (.ok ())
  | refused {e : Failure} (kept : a.bytes st' = a.bytes st) : Written a s r st st' (.error e)

/-- Only the bytes of the state before the write count. -/
theorem Written.of_bytes_eq {store : RecordStore σ} {a : store.Atomic} {r : s.Record}
    {st st' st'' : σ} {outcome : Except Failure Unit} (h : Written a s r st' st'' outcome)
    (hbytes : a.bytes st' = a.bytes st) : Written a s r st st'' outcome := by
  cases h with
  | accepted encoded stored => exact .accepted encoded stored
  | refused kept => exact .refused (kept.trans hbytes)

/-- What a save comes to over any store. The indices are whether the gate is poisoned, what the
    save gives and the state of the store after it. -/
inductive Saving (ctx : Context σ) (s : RecordSchema) (r : s.Record) (st : σ) :
    Bool → Except Failure Unit → σ → Prop
  /-- Without bytes there is nothing to write. -/
  | unencodable {p : Bool} {e : EncodeError} (failed : s.toBytes r = .error e) :
    Saving ctx s r st p (.error (.encode e)) st
  /-- A poisoned gate lets no bytes through. -/
  | poisoned {b : List UInt8} (encoded : s.toBytes r = .ok b) :
    Saving ctx s r st true (.error .poisoned) st
  /-- The store does not take the bytes. -/
  | refused {b : List UInt8} {e : StoreError} (encoded : s.toBytes r = .ok b)
    (failed : (ctx.store.write b st).result = .error e) :
    Saving ctx s r st false (.error (.store e)) (ctx.store.write b st).state
  | accepted {b : List UInt8} (encoded : s.toBytes r = .ok b)
    (written : (ctx.store.write b st).result = .ok ()) :
    Saving ctx s r st false (.ok ()) (ctx.store.write b st).state

theorem exists_saving (ctx : Context σ) (s : RecordSchema) (r : s.Record) (st : σ) (p : Bool) :
    ∃ outcome st', Saving ctx s r st p outcome st' ∧ Ends (ctx.save s r) st p outcome st' := by
  unfold save
  cases hb : s.toBytes r with
  | error e => exact ⟨_, st, .unencodable hb, (Ends.throw _ _ _).bind_error⟩
  | ok b =>
    have hencode : Ends (ofEncode (Except.ok b)) st p (.ok b) st := ends_ofEncode _
    cases p with
    | true => exact ⟨_, st, .poisoned hb, hencode.bind ends_passGate_poisoned.bind_error⟩
    | false =>
      cases hw : (ctx.store.write b st).result with
      | error e =>
        refine ⟨_, _, .refused hb hw, ?_⟩
        refine hencode.bind (ends_passGate.bind ((ends_perform _).bind ?_))
        rw [hw]
        exact (ends_ofStore _).bind_error
      | ok u =>
        refine ⟨_, _, .accepted hb hw, ?_⟩
        refine hencode.bind (ends_passGate.bind ((ends_perform _).bind ?_))
        rw [hw]
        exact (ends_ofStore _).bind (ends_log _ _)

/-- Over an atomic store a save takes place in full or not at all. -/
theorem Saving.written (store : ctx.store.Atomic) {r : s.Record} {st' : σ}
    {outcome : Except Failure Unit} (h : Saving ctx s r st p outcome st') :
    Written store s r st st' outcome := by
  cases h with
  | unencodable failed => exact .refused rfl
  | poisoned encoded => exact .refused rfl
  | refused encoded failed => exact .refused (store.bytes_refused failed)
  | accepted encoded written => exact .accepted encoded (store.bytes_write written)

theorem exists_save (store : ctx.store.Atomic) (s : RecordSchema) (r : s.Record) (st : σ)
    (p : Bool) : ∃ outcome st',
      Written store s r st st' outcome ∧ Ends (ctx.save s r) st p outcome st' := by
  obtain ⟨outcome, st', hsaving, hsave⟩ := exists_saving ctx s r st p
  exact ⟨outcome, st', hsaving.written store, hsave⟩

/-! ## Deleting -/

theorem exists_delete (store : ctx.store.Atomic) (st : σ) (p : Bool) : ∃ outcome st',
    (outcome = .ok () ∧ store.bytes st' = none ∨
      (∃ e, outcome = .error e) ∧ store.bytes st' = store.bytes st) ∧
    Ends ctx.delete st p outcome st' := by
  unfold delete
  cases p with
  | true => exact ⟨.error .poisoned, st, .inr ⟨⟨_, rfl⟩, rfl⟩, ends_passGate_poisoned.bind_error⟩
  | false =>
    cases hd : (ctx.store.delete st).result with
    | error e =>
      refine ⟨.error (.store e), _, .inr ⟨⟨_, rfl⟩, store.bytes_kept hd⟩, ?_⟩
      refine ends_passGate.bind ((ends_perform _).bind ?_)
      rw [hd]
      exact (ends_ofStore _).bind_error
    | ok u =>
      refine ⟨.ok (), _, .inl ⟨rfl, store.bytes_delete hd⟩, ?_⟩
      refine ends_passGate.bind ((ends_perform _).bind ?_)
      rw [hd]
      exact (ends_ofStore _).bind (ends_log _ _)

/-! ## Assigning -/

section Exchange

variable {α : Type}

theorem run_run (x : Exchange α) : x.run.run = x.run := by
  obtain ⟨slot, value, done⟩ := x
  cases done <;> rfl

/-- However often a sink runs the exchange, it has taken place once in the end. -/
theorem run_repeat (n : ℕ) (x : Exchange α) : (Nat.repeat Exchange.run n x).run = x.run := by
  induction n with
  | zero => rfl
  | succ n ih => rw [Nat.repeat, run_run, ih]

theorem ends_notify (ctx : Context σ) (kind : EventKind) (field : FieldId) :
    Ends (ctx.notify kind field) st p (.ok ()) st := by
  unfold notify
  split_ifs
  · exact fun _ hs hp => ⟨rfl, hs, hp⟩
  · exact Ends.pure _ _ _

theorem ends_access (ctx : Context σ) (field : FieldId) :
    Ends (ctx.access field) st p (.ok ()) st :=
  (ends_log _ _).bind (ends_notify ctx _ _)

/-- An assignment gives the new value and the previous one, whatever the sink does. -/
theorem ends_replace (ctx : Context σ) (field : FieldId) (slot value : α) :
    Ends (ctx.replace field slot value) st p (.ok (value, slot)) st := by
  unfold replace
  refine (ends_log _ _).bind ((ends_notify ctx _ _).bind (Ends.get_bind fun rt => ?_))
  refine (ends_notify ctx _ _).bind ?_
  rw [run_repeat]
  exact Ends.pure _ _ _

end Exchange

/-- The record after an assignment that was written back or undone. -/
def committed (r : s.Record) (i : Fin s.fields.length) (v : (s.fields.get i).type.Value) :
    Except Failure Unit → s.Record
  | .ok () => r.set i v
  | .error _ => r

/-- An assignment is undone when the record cannot be saved with it, over any store. -/
theorem ends_commit {r : s.Record} {i : Fin s.fields.length} {v : (s.fields.get i).type.Value}
    {outcome : Except Failure Unit} {st' : σ}
    (hsave : Ends (ctx.save s (r.set i v)) st p outcome st') (field : FieldId) :
    Ends (ctx.commit s field r i v) st p (.ok (committed r i v outcome, outcome)) st' := by
  unfold commit
  refine (ends_replace ctx _ _ _).bind (hsave.attempt.bind ?_)
  cases outcome with
  | ok u => exact Ends.pure _ _ _
  | error e =>
    refine (ends_log _ _).bind ((ends_replace ctx _ _ _).bind ?_)
    dsimp only
    rw [Values.set_set_get]
    exact Ends.pure _ _ _

/-- An assignment is written back, or undone when the write fails. -/
theorem exists_commit (store : ctx.store.Atomic) (field : FieldId) (r : s.Record)
    (i : Fin s.fields.length) (v : (s.fields.get i).type.Value) (st : σ) (p : Bool) :
    ∃ outcome st', Written store s (r.set i v) st st' outcome ∧
      Ends (ctx.commit s field r i v) st p (.ok (committed r i v outcome, outcome)) st' := by
  obtain ⟨outcome, st', hwritten, hsave⟩ := exists_save store s (r.set i v) st p
  exact ⟨outcome, st', hwritten, ends_commit hsave field⟩

end Context

end KeyedRecords
