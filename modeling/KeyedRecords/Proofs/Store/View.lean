import Mathlib.Tactic
import KeyedRecords.Store.RecordStore

/-!
# What a store keeps

A `RecordStore.View` reads the record off the state of a store, and says how the operations
go with it: reading changes nothing, and a write takes place in full or not at all. A store may
refuse to read a record that it keeps.

The stores that keep records in memory, with faults or without, and in a database have views.
-/

namespace KeyedRecords.RecordStore

/-- What a store keeps in each state, and what keeps it from reading that. -/
structure View {σ : Type} (store : RecordStore σ) where
  /-- The bytes of the stored record. -/
  bytes : σ → Option (List UInt8)
  /-- The error that reading runs into. -/
  fault : σ → Option StoreError
  read_fault : ∀ {s e}, fault s = some e → (store.read s).result = .error e
  read_record : ∀ {s b}, fault s = none → bytes s = some b → (store.read s).result = .ok b
  read_nothing : ∀ {s}, fault s = none → bytes s = none →
    (store.read s).result = .error (.notFound store.location)
  bytes_read : ∀ s, bytes (store.read s).state = bytes s
  fault_read : ∀ s, fault (store.read s).state = fault s
  /-- A write that succeeds has replaced the record, and it can be read. -/
  bytes_write : ∀ {s b}, (store.write b s).result = .ok () → bytes (store.write b s).state = some b
  fault_write : ∀ {s b}, (store.write b s).result = .ok () → fault s = none →
    fault (store.write b s).state = none
  /-- A write that fails has left the record as it was. -/
  bytes_refused : ∀ {s b e}, (store.write b s).result = .error e →
    bytes (store.write b s).state = bytes s

namespace View

variable {σ : Type} {store : RecordStore σ}

/-- A read that succeeds gives the stored record. -/
theorem of_read_ok (v : View store) {s : σ} {b : List UInt8} (h : (store.read s).result = .ok b) :
    v.fault s = none ∧ v.bytes s = some b := by
  cases hf : v.fault s with
  | some e => rw [v.read_fault hf] at h; cases h
  | none =>
    cases hb : v.bytes s with
    | none => rw [v.read_nothing hf hb] at h; cases h
    | some b' =>
      rw [v.read_record hf hb] at h
      cases h
      exact ⟨rfl, rfl⟩

/-- A second read gives what the first gave. -/
theorem read_again (v : View store) (s : σ) :
    (store.read (store.read s).state).result = (store.read s).result := by
  cases hf : v.fault s with
  | some e => rw [v.read_fault hf, v.read_fault ((v.fault_read s).trans hf)]
  | none =>
    have hf' := (v.fault_read s).trans hf
    cases hb : v.bytes s with
    | none => rw [v.read_nothing hf hb, v.read_nothing hf' ((v.bytes_read s).trans hb)]
    | some b => rw [v.read_record hf hb, v.read_record hf' ((v.bytes_read s).trans hb)]

/-- A record that was written is read. -/
theorem read_after_write (v : View store) {s : σ} {b : List UInt8}
    (hw : (store.write b s).result = .ok ()) (hf : v.fault s = none) :
    (store.read (store.write b s).state).result = .ok b :=
  v.read_record (v.fault_write hw hf) (v.bytes_write hw)

end View

/-! ## Stores with a view -/

/-- The view of a record in memory. -/
def memoryView (name : String) : View (memory name) where
  bytes s := s
  fault _ := none
  read_fault := by rintro s e ⟨⟩
  read_record := by rintro s b - rfl; rfl
  read_nothing := by rintro s - rfl; rfl
  bytes_read s := by cases s <;> rfl
  fault_read _ := rfl
  bytes_write := by rintro s b -; rfl
  fault_write := by rintro s b - -; rfl
  bytes_refused := by rintro s b e ⟨⟩

/-- The error that a faulty store gives for an operation. -/
def FaultyCell.errorOf (location : String) (op : StoreOperation) (s : FaultyCell) :
    Option StoreError :=
  (s.faults.find? fun f => f.1 = op).map fun f => .ofFault location f.2

theorem faulty_read (name : String) (s : FaultyCell) : (faulty name).read s =
    match s.faults.find? fun f => f.1 = .read with
    | some f => ⟨.error (.ofFault (faulty name).location f.2), s, []⟩
    | none => ⟨((memory name).read s.bytes).result, s, []⟩ := by
  obtain ⟨bytes, faults⟩ := s
  cases bytes <;> rfl

theorem faulty_write (name : String) (b : List UInt8) (s : FaultyCell) : (faulty name).write b s =
    match s.faults.find? fun f => f.1 = .write with
    | some f => ⟨.error (.ofFault (faulty name).location f.2), s, []⟩
    | none => ⟨.ok (), { s with bytes := some b }, []⟩ := rfl

/-- The view of a record in memory whose operations may be made to fail. -/
def faultyView (name : String) : View (faulty name) where
  bytes := FaultyCell.bytes
  fault := FaultyCell.errorOf (faulty name).location .read
  read_fault := by
    intro s e h
    obtain ⟨f, hf, rfl⟩ := Option.map_eq_some_iff.mp h
    rw [faulty_read, hf]
  read_record := by
    intro s b h hb
    rw [faulty_read, Option.map_eq_none_iff.mp h, hb]
    rfl
  read_nothing := by
    intro s h hb
    rw [faulty_read, Option.map_eq_none_iff.mp h, hb]
    rfl
  bytes_read s := by
    rw [faulty_read]
    split <;> rfl
  fault_read s := by
    rw [faulty_read]
    split <;> rfl
  bytes_write := by
    intro s b h
    rw [faulty_write] at h ⊢
    split at h
    · cases h
    · rfl
  fault_write := by
    intro s b h hf
    rw [faulty_write] at h ⊢
    split at h
    · cases h
    · exact hf
  bytes_refused := by
    intro s b e h
    rw [faulty_write] at h ⊢
    split at h
    · rfl
    · cases h

/-- The view of a record in a database. -/
def databaseView (name : String) : View (database name) where
  bytes db := db.get? name
  fault _ := none
  read_fault := by rintro s e ⟨⟩
  read_record := by
    intro db b _ hb
    simp only [database, hb]
  read_nothing := by
    intro db _ hb
    simp only [database, hb]
  bytes_read db := by
    simp only [database]
    split <;> rfl
  fault_read _ := rfl
  bytes_write := by
    intro db b _
    simp [database, Database.insert, Database.get?]
  fault_write := by rintro db b - -; rfl
  bytes_refused := by rintro db b e ⟨⟩

end KeyedRecords.RecordStore
