import Mathlib.Tactic
import KeyedRecords.Model.Context

/-!
# What actions do to the store

`Ends a s p result s'` says how an action goes, started with the store in state `s` and with
the gate poisoned or not: it gives `result` and leaves the store in state `s'`. The log and the
sinks may be in any state and have no part in it.

There is a rule for each way to put actions together, and one for each of the small actions
that contexts are made of. An action that holds the gate exclusively poisons it by a panic:
`Concludes` says of it what `Ends` says of others.
-/

namespace KeyedRecords.Action

variable {σ α β : Type} {s s' s'' : σ} {p : Bool}

/-- The action gives `result` and leaves the store in state `s'`, whatever was logged and
    observed before. The gate stays as it is. -/
def Ends (a : Action σ α) (s : σ) (p : Bool) (result : Except Failure α) (s' : σ) : Prop :=
  ∀ rt : Runtime σ, rt.store = s → rt.poisoned = p →
    (a rt).1 = result ∧ (a rt).2.store = s' ∧ (a rt).2.poisoned = p

/-- Started with an open gate, the action gives `result` and leaves the store in state `s'`. It
    leaves the gate poisoned exactly if it panics. -/
def Concludes (a : Action σ α) (s : σ) (result : Except Failure α) (s' : σ) : Prop :=
  ∀ rt : Runtime σ, rt.store = s → rt.poisoned = false →
    (a rt).1 = result ∧ (a rt).2.store = s' ∧
      ((a rt).2.poisoned = true ↔ result = .error .panicked)

/-! ## Actions put together -/

theorem bind_apply (a : Action σ α) (f : α → Action σ β) (rt : Runtime σ) :
    (a >>= f) rt = match (a rt).1 with
      | .ok v => f v (a rt).2
      | .error e => (.error e, (a rt).2) := by
  change (StateT.bind a (ExceptT.bindCont f)) rt = _
  simp only [StateT.bind]
  cases a rt with
  | mk r rt' => cases r <;> rfl

theorem Ends.pure (v : α) (s : σ) (p : Bool) : Ends (pure v) s p (.ok v) s :=
  fun _ hs hp => ⟨rfl, hs, hp⟩

theorem Ends.throw (e : Failure) (s : σ) (p : Bool) :
    Ends (throw e : Action σ α) s p (.error e) s :=
  fun _ hs hp => ⟨rfl, hs, hp⟩

theorem Ends.bind {a : Action σ α} {f : α → Action σ β} {v : α} {result : Except Failure β}
    (ha : Ends a s p (.ok v) s') (hf : Ends (f v) s' p result s'') :
    Ends (a >>= f) s p result s'' := by
  intro rt hs hp
  obtain ⟨hr, hs', hp'⟩ := ha rt hs hp
  rw [bind_apply, hr]
  exact hf _ hs' hp'

/-- What comes after a failure does not take place. -/
theorem Ends.bind_error {a : Action σ α} {f : α → Action σ β} {e : Failure}
    (ha : Ends a s p (.error e) s') : Ends (a >>= f) s p (.error e) s' := by
  intro rt hs hp
  obtain ⟨hr, hs', hp'⟩ := ha rt hs hp
  rw [bind_apply, hr]
  exact ⟨rfl, hs', hp'⟩

/-- A state that is read may be any with this store and this gate. -/
theorem Ends.get_bind {f : Runtime σ → Action σ β} {result : Except Failure β}
    (hf : ∀ rt, Ends (f rt) s p result s') : Ends (get >>= f) s p result s' := by
  intro rt hs hp
  rw [bind_apply]
  exact hf rt rt hs hp

theorem Ends.map {a : Action σ α} {v : α} (ha : Ends a s p (.ok v) s') (f : α → β) :
    Ends (f <$> a) s p (.ok (f v)) s' := by
  rw [map_eq_pure_bind]
  exact ha.bind (Ends.pure (f v) s' p)

theorem Ends.map_error {a : Action σ α} {e : Failure} (ha : Ends a s p (.error e) s')
    (f : α → β) : Ends (f <$> a) s p (.error e) s' := by
  rw [map_eq_pure_bind]
  exact ha.bind_error

/-! ## Small actions -/

theorem ends_log (level : LogLevel) (text : String) : Ends (log level text) s p (.ok ()) s :=
  fun _ hs hp => ⟨rfl, hs, hp⟩

theorem passGate_apply (rt : Runtime σ) :
    passGate rt = (if rt.poisoned then throw .poisoned else pure () : Action σ Unit) rt := rfl

theorem ends_passGate : Ends passGate s false (.ok ()) s := by
  intro rt hs hp
  rw [passGate_apply, hp]
  exact ⟨rfl, hs, hp⟩

theorem ends_passGate_poisoned : Ends passGate s true (.error .poisoned) s := by
  intro rt hs hp
  rw [passGate_apply, hp]
  exact ⟨rfl, hs, hp⟩

theorem ends_perform (op : σ → StoreReply σ α) :
    Ends (perform op) s p (.ok (op s).result) (op s).state := by
  rintro rt rfl rfl
  exact ⟨rfl, rfl, rfl⟩

theorem ends_ofStore (r : Except StoreError α) :
    Ends (ofStore r) s p (r.mapError Failure.store) s := by
  cases r with
  | ok v => exact Ends.pure v s p
  | error e => exact Ends.throw _ s p

theorem ends_ofDecode (r : Except (Codec.Stop DecodeError) α) :
    Ends (ofDecode r) s p (r.mapError Failure.ofStop) s := by
  cases r with
  | ok v => exact Ends.pure v s p
  | error stop => exact Ends.throw _ s p

/-! ## The gate held exclusively -/

theorem panics_iff {result : Except Failure α} :
    panics result = true ↔ result = .error .panicked := by
  unfold panics
  split <;> simp_all

theorem exclusively_apply {a : Action σ α} {rt : Runtime σ} (hp : rt.poisoned = false) :
    exclusively a rt =
      ((a rt).1, { (a rt).2 with poisoned := (a rt).2.poisoned || panics (a rt).1 }) := by
  unfold exclusively
  rw [bind_apply, passGate_apply, hp]
  rfl

theorem Ends.exclusively {a : Action σ α} {result : Except Failure α}
    (ha : Ends a s false result s') : Concludes (exclusively a) s result s' := by
  intro rt hs hp
  obtain ⟨hresult, hstore, hgate⟩ := ha rt hs hp
  rw [exclusively_apply hp]
  refine ⟨hresult, hstore, ?_⟩
  rw [hgate, Bool.false_or, hresult]
  exact panics_iff

/-- An action that succeeds leaves the gate open. -/
theorem Concludes.ends {a : Action σ α} {v : α} (ha : Concludes a s (.ok v) s') :
    Ends a s false (.ok v) s' := by
  intro rt hs hp
  obtain ⟨hresult, hstore, hgate⟩ := ha rt hs hp
  refine ⟨hresult, hstore, Bool.eq_false_iff.mpr fun hpoisoned => ?_⟩
  cases hgate.mp hpoisoned

theorem ends_exclusively_poisoned (a : Action σ α) :
    Ends (Action.exclusively a) s true (.error .poisoned) s :=
  ends_passGate_poisoned.bind_error

end KeyedRecords.Action
