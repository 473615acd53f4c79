import KeyedRecords.Model.Migration
import KeyedRecords.Proofs.Model.WriteBack

/-!
# Actions that are not observed

What goes through the gate has nothing to do with what was logged and observed: it gives the same
whatever that was, and it emits no events.

Results:
* `Action.Quiet`: an action of this kind, with a rule for each way to put actions together.
* `quiet_load`, `quiet_save`, `quiet_migrate` and the like: the operations of a context that are of
  this kind.
-/

namespace KeyedRecords

/-- The states have the same store and the same gate. -/
structure Runtime.Agrees {σ : Type} (rt rt' : Runtime σ) : Prop where
  store : rt.store = rt'.store
  gate : rt.poisoned = rt'.poisoned

theorem Runtime.Agrees.refl {σ : Type} (rt : Runtime σ) : rt.Agrees rt := ⟨rfl, rfl⟩

namespace Action

variable {σ α β : Type}

/-- From states that agree the action gives the same and gets to states that agree, and it leaves
    the registrar as it is. -/
structure Quiet (a : Action σ α) : Prop where
  result : ∀ rt rt' : Runtime σ, rt.Agrees rt' → (a rt).1 = (a rt').1
  agrees : ∀ rt rt' : Runtime σ, rt.Agrees rt' → (a rt).2.Agrees (a rt').2
  registrar : ∀ rt : Runtime σ, (a rt).2.registrar = rt.registrar

/-! ## Actions put together -/

theorem Quiet.pure (v : α) : Quiet (pure v : Action σ α) :=
  ⟨fun _ _ _ => rfl, fun _ _ h => h, fun _ => rfl⟩

theorem Quiet.throw (e : Failure) : Quiet (throw e : Action σ α) :=
  ⟨fun _ _ _ => rfl, fun _ _ h => h, fun _ => rfl⟩

theorem Quiet.bind {a : Action σ α} {f : α → Action σ β} (ha : Quiet a)
    (hf : ∀ v, Quiet (f v)) : Quiet (a >>= f) where
  result rt rt' h := by
    rw [bind_apply, bind_apply, ← ha.result rt rt' h]
    cases (a rt).1 with
    | ok v => exact (hf v).result _ _ (ha.agrees rt rt' h)
    | error e => rfl
  agrees rt rt' h := by
    rw [bind_apply, bind_apply, ← ha.result rt rt' h]
    cases (a rt).1 with
    | ok v => exact (hf v).agrees _ _ (ha.agrees rt rt' h)
    | error e => exact ha.agrees rt rt' h
  registrar rt := by
    rw [bind_apply]
    cases (a rt).1 with
    | ok v => exact ((hf v).registrar _).trans (ha.registrar rt)
    | error e => exact ha.registrar rt

theorem Quiet.map {a : Action σ α} (ha : Quiet a) (f : α → β) : Quiet (f <$> a) := by
  rw [map_eq_pure_bind]
  exact ha.bind fun v => .pure (f v)

theorem Quiet.attempt {a : Action σ α} (ha : Quiet a) : Quiet a.attempt :=
  ⟨fun rt rt' h => congrArg Except.ok (ha.result rt rt' h), ha.agrees, ha.registrar⟩

/-! ## Small actions -/

theorem quiet_log (level : LogLevel) (text : String) : Quiet (log level text : Action σ Unit) :=
  ⟨fun _ _ _ => rfl, fun _ _ h => ⟨h.store, h.gate⟩, fun _ => rfl⟩

theorem quiet_passGate : Quiet (passGate : Action σ Unit) where
  result rt rt' h := by
    rw [passGate_apply, passGate_apply, ← h.gate]
    split_ifs <;> rfl
  agrees rt rt' h := by
    rw [passGate_apply, passGate_apply, ← h.gate]
    split_ifs <;> exact h
  registrar rt := by
    rw [passGate_apply]
    split_ifs <;> rfl

theorem Quiet.exclusively {a : Action σ α} (ha : Quiet a) : Quiet (exclusively a) := by
  refine quiet_passGate.bind fun _ => ⟨ha.result, fun rt rt' h => ⟨?_, ?_⟩, ha.registrar⟩
  · exact (ha.agrees rt rt' h).store
  · exact congrArg₂ (fun gate result => gate || panics result) (ha.agrees rt rt' h).gate
      (ha.result rt rt' h)

theorem quiet_perform (op : σ → StoreReply σ α) : Quiet (perform op) where
  result _ _ h := congrArg (fun st => Except.ok (op st).result) h.store
  agrees _ _ h := ⟨congrArg (fun st => (op st).state) h.store, h.gate⟩
  registrar _ := rfl

theorem quiet_ofStore (r : Except StoreError α) : Quiet (ofStore r : Action σ α) := by
  cases r with
  | ok v => exact .pure v
  | error e => exact .throw _

theorem quiet_ofDecode (r : Except (Codec.Stop DecodeError) α) :
    Quiet (ofDecode r : Action σ α) := by
  cases r with
  | ok v => exact .pure v
  | error e => exact .throw _

theorem quiet_ofEncode (r : Except EncodeError α) : Quiet (ofEncode r : Action σ α) := by
  cases r with
  | ok v => exact .pure v
  | error e => exact .throw _

end Action

namespace Context

open KeyedRecords.Action

variable {σ : Type} (ctx : Context σ)

/-! ## Operations that go through the gate -/

theorem quiet_isPersisted : Quiet ctx.isPersisted :=
  quiet_passGate.bind fun _ => (quiet_perform _).bind fun _ => quiet_ofStore _

theorem quiet_readContainer : Quiet ctx.readContainer := by
  refine quiet_passGate.bind fun _ => (quiet_perform _).bind fun result => ?_
  cases result with
  | ok bytes => exact (quiet_ofDecode _).map some
  | error e =>
    dsimp only
    split_ifs
    · exact .pure _
    · exact .throw _

theorem quiet_load (s : RecordSchema) : Quiet (ctx.load s) :=
  quiet_passGate.bind fun _ => (quiet_perform _).bind fun _ => (quiet_ofStore _).bind fun _ =>
    (quiet_log _ _).bind fun _ => quiet_ofDecode _

theorem quiet_save (s : RecordSchema) (r : s.Record) : Quiet (ctx.save s r) :=
  (quiet_ofEncode _).bind fun _ => quiet_passGate.bind fun _ => (quiet_perform _).bind fun _ =>
    (quiet_ofStore _).bind fun _ => quiet_log _ _

theorem quiet_delete : Quiet ctx.delete :=
  quiet_passGate.bind fun _ => (quiet_perform _).bind fun _ => (quiet_ofStore _).bind fun _ =>
    quiet_log _ _

theorem quiet_assess (model : String) (s : RecordSchema) (c : Container) :
    Quiet (assess model s c : Action σ Assessment) := by
  have hlog : Quiet (modify fun rt => { rt with log := rt.log ++ s.assessLog model c } :
      Action σ Unit) := ⟨fun _ _ _ => rfl, fun _ _ h => ⟨h.store, h.gate⟩, fun _ => rfl⟩
  refine hlog.bind fun _ => ?_
  cases s.assess c with
  | none => exact .throw _
  | some a => exact .pure a

theorem quiet_shouldMigrate (model : String) (s : RecordSchema) :
    Quiet (ctx.shouldMigrate model s) := by
  refine ctx.quiet_readContainer.bind fun stored => ?_
  cases stored with
  | none => exact .pure _
  | some c => exact (quiet_assess model s c).bind fun _ => (quiet_log _ _).bind fun _ => .pure _

theorem quiet_rewrite (model : String) (s : RecordSchema) (c : Container) :
    Quiet (ctx.rewrite model s c) := by
  refine (quiet_assess model s c).bind fun assessment => ?_
  cases assessment with
  | current => exact (quiet_log _ _).bind fun _ => .pure _
  | legacy =>
    exact (quiet_ofDecode _).bind fun _ => (quiet_ofEncode _).bind fun _ =>
      (quiet_perform _).bind fun _ => (quiet_ofStore _).bind fun _ =>
        (quiet_log _ _).bind fun _ => .pure _

theorem quiet_migrate (model : String) (s : RecordSchema) : Quiet (ctx.migrate model s) := by
  refine Quiet.exclusively ((quiet_perform _).bind fun result => ?_)
  cases result with
  | error e =>
    dsimp only
    split_ifs
    · exact (quiet_log _ _).bind fun _ => .pure _
    · exact (quiet_log _ _).bind fun _ => .throw _
  | ok bytes => exact (quiet_ofDecode _).bind fun c => ctx.quiet_rewrite model s c

end Context

end KeyedRecords
