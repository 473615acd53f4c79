import KeyedRecords.Model.Migration
import KeyedRecords.Proofs.Model.Action
import KeyedRecords.Proofs.Record.Lookup
import KeyedRecords.Proofs.Store.View

/-!
# What a migration does

`Context.find` is what the stored record is for both entry points of a migration. How each of
them goes is determined by it, one lemma for each case.
-/

namespace KeyedRecords.Context

open KeyedRecords.Action

variable {σ : Type} {ctx : Context σ} {st : σ} {s : RecordSchema}

/-- The stored container, or none when nothing was written yet. -/
def find (ctx : Context σ) (st : σ) : Except Failure (Option Container) :=
  match (ctx.store.read st).result with
  | .ok bytes => ((Container.ofBytes bytes).map some).mapError Failure.ofStop
  | .error e => if e.isNotFound then .ok none else .error (.store e)

theorem find_eq_some_iff {c : Container} : ctx.find st = .ok (some c) ↔
    ∃ bytes, (ctx.store.read st).result = .ok bytes ∧ Container.ofBytes bytes = .ok c := by
  unfold find
  cases (ctx.store.read st).result with
  | ok bytes => simp [mapError_eq_ok_iff, map_eq_ok_iff]
  | error e => by_cases h : e.isNotFound <;> simp [h]

theorem find_eq_none_iff : ctx.find st = .ok none ↔
    ∃ e, (ctx.store.read st).result = .error e ∧ e.isNotFound := by
  unfold find
  cases (ctx.store.read st).result with
  | ok bytes => simp [mapError_eq_ok_iff, map_eq_ok_iff]
  | error e => by_cases h : e.isNotFound <;> simp [h]

/-! ## Reading -/

theorem ends_readContainer (ctx : Context σ) (st : σ) :
    Ends ctx.readContainer st false (ctx.find st) (ctx.store.read st).state := by
  unfold readContainer
  refine ends_passGate.bind ((ends_perform _).bind ?_)
  unfold find
  cases (ctx.store.read st).result with
  | ok bytes =>
    dsimp only
    cases Container.ofBytes bytes with
    | ok c => exact (Ends.pure c _ _).map some
    | error stop => exact (Ends.throw (.ofStop stop) _ _).map_error some
  | error e =>
    dsimp only
    split_ifs
    · exact Ends.pure none _ _
    · exact Ends.throw _ _ _

theorem ends_assess {p : Bool} (model : String) {c : Container} {a : Assessment}
    (hc : s.assess c = some a) : Ends (assess model s c) st p (.ok a) st := by
  unfold assess
  rw [hc]
  exact fun _ hs hp => ⟨rfl, hs, hp⟩

theorem ends_assess_panicked {p : Bool} (model : String) {c : Container}
    (hc : s.assess c = none) : Ends (assess model s c) st p (.error .panicked) st := by
  unfold assess
  rw [hc]
  exact fun _ hs hp => ⟨rfl, hs, hp⟩

theorem ends_load {bytes : List UInt8} (h : (ctx.store.read st).result = .ok bytes) :
    Ends (ctx.load s) st false ((s.ofBytes bytes).mapError Failure.ofStop)
      (ctx.store.read st).state := by
  unfold load
  refine ends_passGate.bind ((ends_perform _).bind ?_)
  rw [h]
  exact (ends_ofStore _).bind ((ends_log _ _).bind (ends_ofDecode _))

/-! ## Asking -/

variable (model : String)

theorem shouldMigrate_poisoned (ctx : Context σ) (model : String) :
    Ends (ctx.shouldMigrate model s) st true (.error .poisoned) st :=
  (ends_passGate_poisoned.bind_error).bind_error

theorem shouldMigrate_error {e : Failure} (h : ctx.find st = .error e) :
    Ends (ctx.shouldMigrate model s) st false (.error e) (ctx.store.read st).state := by
  have hread := ends_readContainer ctx st
  rw [h] at hread
  exact hread.bind_error

theorem shouldMigrate_none (h : ctx.find st = .ok none) :
    Ends (ctx.shouldMigrate model s) st false (.ok false) (ctx.store.read st).state := by
  have hread := ends_readContainer ctx st
  rw [h] at hread
  exact hread.bind (Ends.pure false _ _)

theorem shouldMigrate_some {c : Container} {a : Assessment} (h : ctx.find st = .ok (some c))
    (hc : s.assess c = some a) : Ends (ctx.shouldMigrate model s) st false
      (.ok (a = .legacy : Bool)) (ctx.store.read st).state := by
  have hread := ends_readContainer ctx st
  rw [h] at hread
  exact hread.bind ((ends_assess model hc).bind ((ends_log _ _).bind (Ends.pure _ _ _)))

theorem shouldMigrate_panicked {c : Container} (h : ctx.find st = .ok (some c))
    (hc : s.assess c = none) : Ends (ctx.shouldMigrate model s) st false
      (.error .panicked) (ctx.store.read st).state := by
  have hread := ends_readContainer ctx st
  rw [h] at hread
  exact hread.bind (ends_assess_panicked model hc).bind_error

/-! ## Migrating -/

theorem migrate_poisoned (ctx : Context σ) (model : String) :
    Ends (ctx.migrate model s) st true (.error .poisoned) st :=
  ends_exclusively_poisoned _

theorem migrate_error {e : Failure} (h : ctx.find st = .error e) :
    Concludes (ctx.migrate model s) st (.error e) (ctx.store.read st).state := by
  refine Ends.exclusively ((ends_perform _).bind ?_)
  unfold find at h
  cases hr : (ctx.store.read st).result with
  | error e' =>
    rw [hr] at h
    dsimp only at h ⊢
    split_ifs at h ⊢
    cases h
    exact (ends_log _ _).bind (Ends.throw _ _ _)
  | ok bytes =>
    rw [hr] at h
    dsimp only at h ⊢
    cases hb : Container.ofBytes bytes with
    | ok c => rw [hb] at h; cases h
    | error stop =>
      rw [hb] at h
      cases h
      exact (Ends.throw _ _ _).bind_error

theorem migrate_none (h : ctx.find st = .ok none) :
    Concludes (ctx.migrate model s) st (.ok .noRecord) (ctx.store.read st).state := by
  obtain ⟨e, he, hnf⟩ := find_eq_none_iff.mp h
  refine Ends.exclusively ((ends_perform _).bind ?_)
  rw [he]
  simp only [hnf, if_true]
  exact (ends_log _ _).bind (Ends.pure _ _ _)

/-- What is done with the container is done with a record that was found. -/
theorem migrate_found {c : Container} (h : ctx.find st = .ok (some c))
    {result : Except Failure MigrationOutcome} {st' : σ}
    (hrest : Ends (ctx.rewrite model s c) (ctx.store.read st).state false result st') :
    Concludes (ctx.migrate model s) st result st' := by
  obtain ⟨bytes, hr, hb⟩ := find_eq_some_iff.mp h
  refine Ends.exclusively ((ends_perform _).bind ?_)
  rw [hr]
  dsimp only
  rw [hb]
  exact (Ends.pure c _ _).bind hrest

theorem migrate_current {c : Container} (h : ctx.find st = .ok (some c))
    (hc : s.assess c = some .current) :
    Concludes (ctx.migrate model s) st (.ok .alreadyCurrent) (ctx.store.read st).state :=
  migrate_found model h
    ((ends_assess model hc).bind ((ends_log _ _).bind (Ends.pure _ _ _)))

/-- A probe that panics takes the gate with it. -/
theorem migrate_panicked {c : Container} (h : ctx.find st = .ok (some c))
    (hc : s.assess c = none) :
    Concludes (ctx.migrate model s) st (.error .panicked) (ctx.store.read st).state :=
  migrate_found model h (ends_assess_panicked model hc).bind_error

/-- A field that cannot be looked up ends the migration before anything is written. -/
theorem migrate_unreadable {c : Container} {e : DecodeError} (h : ctx.find st = .ok (some c))
    (hc : s.assess c = some .legacy) (he : s.FirstUnreadable c e) :
    Concludes (ctx.migrate model s) st (.error (.decode e)) (ctx.store.read st).state := by
  refine migrate_found model h ((ends_assess model hc).bind ?_)
  dsimp only
  rw [RecordSchema.ofMigrated_eq_fail_iff.mpr he]
  exact (Ends.throw _ _ _).bind_error

/-- So does a field with a length that no memory holds, by a panic. -/
theorem migrate_unholdable {c : Container} (h : ctx.find st = .ok (some c))
    (hc : s.assess c = some .legacy) (hoverrun : s.FirstUnholdable c) :
    Concludes (ctx.migrate model s) st (.error .panicked) (ctx.store.read st).state := by
  refine migrate_found model h ((ends_assess model hc).bind ?_)
  dsimp only
  rw [RecordSchema.ofMigrated_eq_panic_iff.mpr hoverrun]
  exact (Ends.throw _ _ _).bind_error

/-- A record that was looked up is written, and what the store answers decides. -/
theorem migrate_write {c : Container} {r : s.Record} {bytes : List UInt8}
    (h : ctx.find st = .ok (some c)) (hc : s.assess c = some .legacy) (hr : s.LookedUp c r)
    (hb : s.toBytes r = .ok bytes) :
    let reply := ctx.store.write bytes (ctx.store.read st).state
    Concludes (ctx.migrate model s) st
      ((reply.result.map fun _ => MigrationOutcome.migrated).mapError Failure.store)
      reply.state := by
  intro reply
  refine migrate_found model h ((ends_assess model hc).bind ?_)
  dsimp only
  rw [RecordSchema.ofMigrated_eq_ok_iff.mpr hr]
  refine (Ends.pure r _ _).bind ?_
  rw [hb]
  refine (Ends.pure bytes _ _).bind ((ends_perform _).bind ?_)
  change Ends (ofStore reply.result >>= _) reply.state false _ _
  have hstore := ends_ofStore reply.result (s := reply.state) (p := false)
  cases hw : reply.result with
  | ok u => rw [hw] at hstore; exact hstore.bind ((ends_log _ _).bind (Ends.pure _ _ _))
  | error e => rw [hw] at hstore; exact hstore.bind_error

end KeyedRecords.Context
