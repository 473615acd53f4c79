import KeyedRecords.Proofs.Codec.Overrun
import KeyedRecords.Proofs.Record.Schema

/-!
# Records under old keys

A lenient look-up consults the old key of a field where the container has an entry under it,
and the new key elsewhere.

Results:
* `ofMigrated_eq_ok_iff`: the record that is looked up has, for every field, the value whose
  bytes stand under the consulted key.
* `ofMigrated_eq_fail_iff`, `ofMigrated_eq_panic_iff`: otherwise the first field without such a
  value tells why, or ends the look-up in a panic.
* `storable_of_lookedUp`: a record that was looked up can be written.
-/

namespace KeyedRecords

open Codec

/-! ## One field -/

namespace KeyedField

/-- The key that a lenient look-up consults. -/
def consulted (f : KeyedField) (c : Container) : KeyLiteral :=
  if c.contains f.oldKey then f.oldKey else f.key

/-- The bytes under the consulted key are read as the value, to the last. -/
def StoredAs (f : KeyedField) (c : Container) (v : f.type.Value) : Prop :=
  ∃ bytes, c.get? (f.consulted c) = some bytes ∧ f.type.read bytes = .ok (v, [])

/-- Why the container has no value for the field. -/
inductive Unreadable (f : KeyedField) (c : Container) : DecodeError → Prop
  /-- Both keys are absent; the old one is reported. -/
  | missing (old : c.get? f.oldKey = none) (new : c.get? f.key = none) :
    Unreadable f c (.missingKey f.oldKey)
  /-- The bytes under the consulted key are not those of a value. -/
  | mismatch {bytes : List UInt8} {failure : ReadFailure}
    (stored : c.get? (f.consulted c) = some bytes)
    (failed : readWhole f.type.read bytes = .error (.fail failure)) :
    Unreadable f c (.typeMismatch (f.consulted c) failure)

/-- In the bytes under the consulted key, a length is announced that no memory holds. -/
def Unholdable (f : KeyedField) (c : Container) : Prop :=
  ∃ bytes, c.get? (f.consulted c) = some bytes ∧ f.type.Overruns bytes

variable {f : KeyedField} {c : Container}

/-- What a lenient look-up does, by the key that it consults. -/
theorem decodeMigrated_lenient :
    c.decodeMigrated .lenient f.oldKey f.key f.type = match c.get? (f.consulted c) with
      | some bytes => Container.decodeBytes (f.consulted c) f.type bytes
      | none => .error (.fail (.missingKey f.oldKey)) := by
  unfold Container.decodeMigrated consulted Container.contains
  cases ho : c.get? f.oldKey with
  | some bytes => simp only [Option.isSome_some, if_true, ho]
  | none => rfl

theorem get?_consulted_eq_none_iff :
    c.get? (f.consulted c) = none ↔ c.get? f.oldKey = none ∧ c.get? f.key = none := by
  unfold consulted Container.contains
  cases ho : c.get? f.oldKey with
  | some bytes => simp only [Option.isSome_some, if_true, ho, reduceCtorEq, false_and]
  | none => simp only [Option.isSome_none, Bool.false_eq_true, if_false, true_and]

theorem decodeMigrated_eq_ok_iff {v : f.type.Value} :
    c.decodeMigrated .lenient f.oldKey f.key f.type = .ok v ↔ f.StoredAs c v := by
  rw [decodeMigrated_lenient]
  unfold StoredAs
  cases c.get? (f.consulted c) with
  | none => simp
  | some bytes => simp [Container.decodeBytes_eq_ok_iff]

theorem decodeMigrated_eq_fail_iff {e : DecodeError} :
    c.decodeMigrated .lenient f.oldKey f.key f.type = .error (.fail e) ↔ f.Unreadable c e := by
  rw [decodeMigrated_lenient]
  constructor
  · intro h
    cases hg : c.get? (f.consulted c) with
    | none =>
      rw [hg] at h
      cases h
      obtain ⟨ho, hn⟩ := get?_consulted_eq_none_iff.mp hg
      exact .missing ho hn
    | some bytes =>
      rw [hg] at h
      obtain ⟨failure, hr, rfl⟩ := Container.decodeBytes_eq_fail_iff.mp h
      exact .mismatch hg hr
  · intro h
    cases h with
    | missing old new => rw [get?_consulted_eq_none_iff.mpr ⟨old, new⟩]
    | mismatch stored failed =>
      rw [stored]
      exact Container.decodeBytes_eq_fail_iff.mpr ⟨_, failed, rfl⟩

theorem decodeMigrated_eq_panic_iff :
    c.decodeMigrated .lenient f.oldKey f.key f.type = .error .panic ↔ f.Unholdable c := by
  rw [decodeMigrated_lenient]
  simp only [Unholdable, ← FieldType.read_eq_panic_iff]
  cases c.get? (f.consulted c) with
  | none => simp
  | some bytes => simp [Container.decodeBytes_eq_panic_iff]

end KeyedField

/-! ## All fields -/

namespace RecordSchema

variable {s : RecordSchema} {c : Container} {r : s.Record} {e : DecodeError}

/-- The container has the values of the record, each under the key that is consulted. -/
def LookedUp (s : RecordSchema) (c : Container) (r : s.Record) : Prop :=
  ∀ i : Fin s.fields.length, (s.fields.get i).StoredAs c (r.get i)

/-- The first field without a value tells why. -/
def FirstUnreadable (s : RecordSchema) (c : Container) (e : DecodeError) : Prop :=
  ∃ i : Fin s.fields.length, (s.fields.get i).Unreadable c e ∧
    ∀ j < i, ∃ v : (s.fields.get j).type.Value, (s.fields.get j).StoredAs c v

/-- In the first field without a value, a length is announced that no memory holds. -/
def FirstUnholdable (s : RecordSchema) (c : Container) : Prop :=
  ∃ i : Fin s.fields.length, (s.fields.get i).Unholdable c ∧
    ∀ j < i, ∃ v : (s.fields.get j).type.Value, (s.fields.get j).StoredAs c v

theorem ofMigrated_eq_ok_iff : s.ofMigrated .lenient c = .ok r ↔ s.LookedUp c r := by
  unfold ofMigrated LookedUp
  rw [Values.decodeWith_eq_ok_iff]
  exact forall_congr' fun i => KeyedField.decodeMigrated_eq_ok_iff

theorem ofMigrated_eq_fail_iff :
    s.ofMigrated .lenient c = .error (.fail e) ↔ s.FirstUnreadable c e := by
  unfold ofMigrated FirstUnreadable
  rw [Values.decodeWith_eq_error_iff]
  simp only [KeyedField.decodeMigrated_eq_fail_iff, KeyedField.decodeMigrated_eq_ok_iff]

theorem ofMigrated_eq_panic_iff :
    s.ofMigrated .lenient c = .error .panic ↔ s.FirstUnholdable c := by
  unfold ofMigrated FirstUnholdable
  rw [Values.decodeWith_eq_error_iff]
  simp only [KeyedField.decodeMigrated_eq_panic_iff, KeyedField.decodeMigrated_eq_ok_iff]

/-- A record that was looked up can be written. -/
theorem storable_of_lookedUp (hc : c.Fits) (h : s.LookedUp c r) : s.Storable r := by
  intro i
  obtain ⟨bytes, hget, hread⟩ := h i
  have hdecode : Container.decodeBytes ((s.fields.get i).consulted c) (s.fields.get i).type bytes =
      .ok (r.get i) := Container.decodeBytes_eq_ok_iff.mpr hread
  obtain ⟨hf, out, hout, hle⟩ := Container.writable_of_decodeBytes hdecode
  exact ⟨hf, out, hout, lt_of_le_of_lt hle (hc.bytes _ (Container.mem_of_get? hget))⟩

/-- Either every field can be looked up, or a first one cannot. -/
theorem lookedUp_or_not (s : RecordSchema) (c : Container) :
    (∃ r, s.LookedUp c r) ∨ (∃ e, s.FirstUnreadable c e) ∨ s.FirstUnholdable c := by
  cases h : s.ofMigrated .lenient c with
  | ok r => exact .inl ⟨r, ofMigrated_eq_ok_iff.mp h⟩
  | error stop =>
    cases stop with
    | fail e => exact .inr (.inl ⟨e, ofMigrated_eq_fail_iff.mp h⟩)
    | panic => exact .inr (.inr (ofMigrated_eq_panic_iff.mp h))

end RecordSchema

end KeyedRecords
